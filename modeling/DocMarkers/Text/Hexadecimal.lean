/-! # Hexadecimal numbers -/

namespace DocMarkers.Text

/-- The value of a hexadecimal digit. -/
def hexValue? (c : Char) : Option Nat :=
  if '0' ≤ c ∧ c ≤ '9' then some (c.toNat - 0x30)
  else if 'a' ≤ c ∧ c ≤ 'f' then some (c.toNat - 0x57)
  else if 'A' ≤ c ∧ c ≤ 'F' then some (c.toNat - 0x37)
  else none

/-- The number that is written in hexadecimal digits, the highest first. -/
def hexNumber? (digits : List Char) : Option Nat :=
  (digits.mapM hexValue?).map (·.foldl (fun number value => 16 * number + value) 0)

/-- The character whose code is written in hexadecimal digits. -/
def codePoint? (digits : List Char) : Option Char := do
  let code ← hexNumber? digits
  if code.isValidChar then some (Char.ofNat code) else none

/-- A number in hexadecimal digits. -/
def hexadecimal (number : Nat) : List Char :=
  Nat.toDigits 16 number

end DocMarkers.Text
