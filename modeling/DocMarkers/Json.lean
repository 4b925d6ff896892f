/-! # JSON

Values are printed on one line without spaces. In a string only the quote, the backslash and the
control characters below the space are escaped. The fields of an object are printed in the order in
which they are listed; `Json.alphabetical` puts them in the order of their names first.
-/

namespace DocMarkers

/-- A JSON value; its numbers are natural numbers. -/
inductive Json where
  | null
  | bool (value : Bool)
  | number (value : Nat)
  | string (value : String)
  | array (items : List Json)
  | object (fields : List (String × Json))

namespace Json

/-- A hexadecimal digit. -/
def hexDigit (value : Nat) : Char :=
  if value < 10 then Char.ofNat (0x30 + value) else Char.ofNat (0x57 + value)

/-- A character as it is written inside a string. -/
def escape (c : Char) : List Char :=
  if c = '"' then ['\\', '"']
  else if c = '\\' then ['\\', '\\']
  else if c = '\n' then ['\\', 'n']
  else if c = '\r' then ['\\', 'r']
  else if c = '\t' then ['\\', 't']
  else if c.toNat = 0x08 then ['\\', 'b']
  else if c.toNat = 0x0C then ['\\', 'f']
  else if c.toNat < 0x20 then
    ['\\', 'u', '0', '0', hexDigit (c.toNat / 16), hexDigit (c.toNat % 16)]
  else [c]

/-- A string in quotes. -/
def quote (text : String) : String :=
  "\"" ++ String.ofList (text.toList.flatMap escape) ++ "\""

mutual

/-- A value on one line. -/
def text : Json → String
  | null => "null"
  | bool true => "true"
  | bool false => "false"
  | number value => toString value
  | string value => quote value
  | array items => "[" ++ ",".intercalate (itemTexts items) ++ "]"
  | object fields => "\x7b" ++ ",".intercalate (fieldTexts fields) ++ "\x7d"

/-- The items of an array, each as text. -/
def itemTexts : List Json → List String
  | [] => []
  | item :: rest => item.text :: itemTexts rest

/-- The fields of an object, each as text. -/
def fieldTexts : List (String × Json) → List String
  | [] => []
  | (name, value) :: rest => (quote name ++ ":" ++ value.text) :: fieldTexts rest

end

/-- Puts a field in front of the first one whose name is not smaller. -/
def insertField (field : String × Json) : List (String × Json) → List (String × Json)
  | [] => [field]
  | next :: rest =>
    if next.1 < field.1 then next :: insertField field rest else field :: next :: rest

mutual

/-- A value with the fields of every object in the order of their names. -/
def alphabetical : Json → Json
  | array items => array (alphabeticalItems items)
  | object fields => object (alphabeticalFields fields)
  | other => other

/-- The items of an array, each in alphabetical order. -/
def alphabeticalItems : List Json → List Json
  | [] => []
  | item :: rest => item.alphabetical :: alphabeticalItems rest

/-- The fields of an object in alphabetical order, inside and out. -/
def alphabeticalFields : List (String × Json) → List (String × Json)
  | [] => []
  | (name, value) :: rest => insertField (name, value.alphabetical) (alphabeticalFields rest)

end

/-- A string, or null where there is none. -/
def optional : Option String → Json
  | some value => string value
  | none => null

end Json

end DocMarkers
