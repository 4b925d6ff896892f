/-! # TOML values

A table remembers what wrote it, because TOML allows only some tables to be added to later: a table
that a header only passed through may still get its own header, a table that dotted keys made may
get more dotted keys, and a table that was written as a value is closed. The same holds of arrays:
only an array of tables that headers made grows.
-/

namespace DocMarkers.Toml

/-- What wrote a table. -/
inductive Origin where
  /-- A value in braces. -/
  | inline
  /-- A header of its own. -/
  | header
  /-- The header of a table inside it. -/
  | passed
  /-- A dotted key. -/
  | dotted
  deriving DecidableEq

/-- A value. Of floats and dates only the kind is kept. -/
inductive Value where
  | string (text : String)
  | integer (value : Int)
  | float
  | boolean (value : Bool)
  | date
  /-- Written in brackets. -/
  | array (items : List Value)
  /-- Written as headers in double brackets, one for each table. -/
  | tables (items : List Value)
  | table (origin : Origin) (entries : List (String × Value))

/-- The entries of a table, in the order in which they were written. -/
abbrev Entries := List (String × Value)

/-- The value of a key. -/
def Entries.find? (entries : Entries) (key : String) : Option Value :=
  entries.lookup key

end DocMarkers.Toml
