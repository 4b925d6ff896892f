import DocMarkers.Text.Hexadecimal
import DocMarkers.Text.Split

/-! # Tables of characters

A table is written as a text whose items stand between blanks. An item is a range of codes, or a
code with the name of what holds from there on. Codes are written in hexadecimal digits, with small
letters.
-/

namespace DocMarkers.Unicode

/-- The codes from one to another, both included. -/
structure Range where
  first : Nat
  last : Nat
  deriving DecidableEq

namespace Range

/-- Whether the code of a character is in a range. -/
def contains (range : Range) (c : Char) : Bool :=
  range.first ≤ c.toNat && c.toNat ≤ range.last

/-- Reads a range: one code, or two with a hyphen between them. -/
def read? (text : List Char) : Option Range := do
  match Text.splitOn '-' text with
  | [single] =>
    let code ← Text.hexNumber? single
    return ⟨code, code⟩
  | [first, last] => return ⟨← Text.hexNumber? first, ← Text.hexNumber? last⟩
  | _ => none

/-- Reads ranges that stand between blanks. -/
def readAll (text : String) : List Range :=
  (Text.words text.toList).filterMap read?

end Range

/-- A digit in a table. Capital letters start names. -/
def isTableDigit (c : Char) : Bool :=
  ('0' ≤ c && c ≤ '9') || ('a' ≤ c && c ≤ 'f')

/-- Reads codes with the names of what holds from there on. -/
def readRuns (text : String) : List (Nat × List Char) :=
  (Text.words text.toList).filterMap fun word =>
    (Text.hexNumber? (word.takeWhile isTableDigit)).map (·, word.dropWhile isTableDigit)

/-- What holds for a code, in a table of the codes from which on something holds: what stands with
the last code that is not behind the given one. -/
def runValue? {α : Type} (table : List (Nat × α)) (code : Nat) : Option α :=
  match table with
  | [] => none
  | (start, value) :: later =>
    if code < start then none
    else (runValue? later code).orElse fun _ => some value

end DocMarkers.Unicode
