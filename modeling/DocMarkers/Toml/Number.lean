import DocMarkers.Toml.Lexeme
import DocMarkers.Toml.Value

/-! # TOML numbers and dates

Integers have 64 bits. Of a float and of a date only its form is checked, and that a float is not so
large that it would be infinite.
-/

namespace DocMarkers.Toml

/-- The value of a decimal digit. -/
def digit? (c : Char) : Option Nat :=
  if c.isDigit then some (c.toNat - 0x30) else none

/-- The value of a digit in some base. -/
def digitBelow? (base : Nat) (c : Char) : Option Nat :=
  (Text.hexValue? c).filter (· < base)

/-- More digits of a number; a single `_` may stand between two digits. -/
def moreDigits (digitOf? : Char → Option Nat) : List Char → Option (List Nat × List Char)
  | [] => some ([], [])
  | '_' :: c :: rest => do
    let digit ← digitOf? c
    let (digits, left) ← moreDigits digitOf? rest
    return (digit :: digits, left)
  | c :: rest =>
    match digitOf? c with
    | some digit => do
      let (digits, left) ← moreDigits digitOf? rest
      return (digit :: digits, left)
    | none => if c = '_' then none else some ([], c :: rest)

/-- One digit or more. -/
def digits? (digitOf? : Char → Option Nat) : List Char → Option (List Nat × List Char)
  | [] => none
  | c :: rest => do
    let digit ← digitOf? c
    let (digits, left) ← moreDigits digitOf? rest
    return (digit :: digits, left)

/-- The number that digits spell in some base. -/
def ofDigits (base : Nat) (digits : List Nat) : Nat :=
  digits.foldl (fun value digit => base * value + digit) 0

/-- A sign, if there is one; `true` for the minus. -/
def sign : List Char → Bool × List Char
  | '-' :: rest => (true, rest)
  | '+' :: rest => (false, rest)
  | text => (false, text)

/-- The digits of a decimal number. Only zero itself starts with a zero. -/
def decimalDigits? : List Char → Option (List Nat × List Char)
  | '0' :: rest => some ([0], rest)
  | text => digits? digit? text

/-- An integer of 64 bits. -/
def bounded? (value : Int) : Option Value :=
  if -0x8000000000000000 ≤ value ∧ value < 0x8000000000000000 then some (.integer value) else none

/-- Whether the number `mantissa · 10 ^ exponent` is too large for a float of 64 bits: from half a
unit above the largest float on, it would be infinite. -/
def isInfinite (mantissa : Nat) (exponent : Int) : Bool :=
  let bound := Nat.pow 2 1024 - Nat.pow 2 970
  let length : Int := (Nat.toDigits 10 mantissa).length
  if mantissa = 0 ∨ length + exponent < 300 then false
  else if length + exponent > 320 then true
  else if 0 ≤ exponent then mantissa * Nat.pow 10 exponent.toNat ≥ bound
  else mantissa ≥ bound * Nat.pow 10 (-exponent).toNat

/-- The exponent of a float, behind its letter. -/
def exponent? (text : List Char) : Option (Int × List Char) := do
  let (negative, unsigned) := sign text
  let (digits, rest) ← digits? digit? unsigned
  let size : Int := ofDigits 10 digits
  return (if negative then -size else size, rest)

/-- The fraction and the exponent of a number whose whole digits are read; a number that has neither
is an integer. -/
def numberTail? (negative : Bool) (whole : List Nat) (text : List Char) :
    Option (Value × List Char) := do
  let (fraction, hasFraction, afterFraction) ←
    match text with
    | '.' :: rest => do
      let (digits, left) ← digits? digit? rest
      pure (digits, true, left)
    | rest => pure ([], false, rest)
  let exponentText? :=
    match afterFraction with
    | 'e' :: rest | 'E' :: rest => some rest
    | _ => none
  let mantissa := ofDigits 10 (whole ++ fraction)
  let scale : Int := fraction.length
  match exponentText? with
  | some rest =>
    let (exponent, left) ← exponent? rest
    if isInfinite mantissa (exponent - scale) && !negative then none else return (.float, left)
  | none =>
    if hasFraction then
      if isInfinite mantissa (-scale) && !negative then none else return (.float, afterFraction)
    else
      let size : Int := ofDigits 10 whole
      return (← bounded? (if negative then -size else size), afterFraction)

/-- A number. -/
def number? (text : List Char) : Option (Value × List Char) :=
  let based (base : Nat) (rest : List Char) : Option (Value × List Char) := do
    let (digits, left) ← digits? (digitBelow? base) rest
    return (← bounded? (ofDigits base digits), left)
  match text with
  | '0' :: 'x' :: rest => based 16 rest
  | '0' :: 'o' :: rest => based 8 rest
  | '0' :: 'b' :: rest => based 2 rest
  | _ =>
    let (negative, unsigned) := sign text
    match unsigned with
    | 'i' :: 'n' :: 'f' :: rest => some (.float, rest)
    | 'n' :: 'a' :: 'n' :: rest => some (.float, rest)
    | _ => do
      let (digits, rest) ← decimalDigits? unsigned
      numberTail? negative digits rest

/-- A number of exactly two digits, within bounds. -/
def twoDigits? (least greatest : Nat) : List Char → Option (Nat × List Char)
  | a :: b :: rest => do
    let value := 10 * (← digit? a) + (← digit? b)
    if least ≤ value ∧ value ≤ greatest then some (value, rest) else none
  | _ => none

/-- How many days a month has. -/
def daysIn (year month : Nat) : Nat :=
  if month = 2 then
    if year % 4 = 0 ∧ (year % 100 ≠ 0 ∨ year % 400 = 0) then 29 else 28
  else if month = 4 ∨ month = 6 ∨ month = 9 ∨ month = 11 then 30
  else 31

/-- The characters behind one that has to come next. -/
def expect? (expected : Char) : List Char → Option (List Char)
  | [] => none
  | c :: rest => if c = expected then some rest else none

/-- The characters behind a time of day, which may have a fraction of a second. -/
def time? (text : List Char) : Option (List Char) := do
  let (_, rest) ← twoDigits? 0 23 text
  let (_, rest) ← twoDigits? 0 59 (← expect? ':' rest)
  let (_, rest) ← twoDigits? 0 60 (← expect? ':' rest)
  match rest with
  | '.' :: c :: more => if c.isDigit then some (more.dropWhile Char.isDigit) else some rest
  | _ => some rest

/-- The characters behind the offset from universal time, which may be left out. -/
def offset? : List Char → Option (List Char)
  | 'Z' :: rest | 'z' :: rest => some rest
  | c :: rest =>
    if c = '+' ∨ c = '-' then do
      let (_, rest) ← twoDigits? 0 23 rest
      let (_, rest) ← twoDigits? 0 59 (← expect? ':' rest)
      return rest
    else some (c :: rest)
  | [] => some []

/-- The characters behind a date in the given year, which may be followed by a time of day. -/
def dateTail? (year : Nat) (text : List Char) : Option (List Char) := do
  let (month, rest) ← twoDigits? 1 12 text
  let (_, rest) ← twoDigits? 1 (daysIn year month) (← expect? '-' rest)
  match rest with
  | c :: more =>
    if c = 'T' ∨ c = 't' then offset? (← time? more)
    else if c = ' ' ∧ (more.head?.any Char.isDigit) then offset? (← time? more)
    else return rest
  | [] => return []

/-- A number, a date or a time of day. Four digits and a `-` are a date, two digits and a `:` a
time. -/
def numberOrDate? (text : List Char) : Option (Value × List Char) :=
  match text with
  | a :: b :: ':' :: _ =>
    if a.isDigit && b.isDigit then (time? text).map (.date, ·) else number? text
  | a :: b :: c :: d :: '-' :: rest =>
    match [a, b, c, d].mapM digit? with
    | some year => (dateTail? (ofDigits 10 year) rest).map (.date, ·)
    | none => number? text
  | _ => number? text

end DocMarkers.Toml
