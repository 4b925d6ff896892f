import DocMarkers.Toml.Value

/-! # Putting tables together

A document gives its entries one by one: under keys that may have dots, and under headers that open
tables. No key gets two values, no table is opened twice, and a table that was written as a whole is
not added to.
-/

namespace DocMarkers.Toml

namespace Entries

/-- Gives a key that has a value another value. -/
def replace (entries : Entries) (key : String) (value : Value) : Entries :=
  entries.map fun entry => if entry.1 = key then (key, value) else entry

/-- Gives a value to a key that has none. -/
def add? (entries : Entries) (key : String) (value : Value) : Option Entries :=
  match entries.find? key with
  | none => some (entries ++ [(key, value)])
  | some _ => none

/-- Changes the last table of an array of tables. -/
def changeLast? (change : Entries → Option Entries) (items : List Value) : Option Value :=
  match items.getLast? with
  | some (.table origin inner) => do
    return .tables (items.dropLast ++ [.table origin (← change inner)])
  | _ => none

/-- Gives a value to a key with dots. All parts but the last one name tables; the last of these has
to be a table that dotted keys made. -/
def assign? (value : Value) : (key : List String) → Entries → Option Entries
  | [], _ => none
  | [part], entries => entries.add? part value
  | part :: next :: rest, entries =>
    match entries.find? part with
    | none => do
      let inner ← assign? value (next :: rest) []
      entries.add? part (.table .dotted inner)
    | some (.table .dotted inner) => do
      let inner ← assign? value (next :: rest) inner
      return entries.replace part (.table .dotted inner)
    | some (.table .passed inner) => do
      if rest.isEmpty then none
      let inner ← assign? value (next :: rest) inner
      return entries.replace part (.table .passed inner)
    | some (.tables items) => do
      if rest.isEmpty then none
      return entries.replace part (← changeLast? (assign? value (next :: rest)) items)
    | some _ => none

/-- Gives values to keys, one after the other. -/
def assignAll? (assignments : List (List String × Value)) (entries : Entries) : Option Entries :=
  assignments.foldlM (fun entries (key, value) => assign? value key entries) entries

/-- Changes the entries of the table that a header passes through, which is made if it is
missing. -/
def changeAt? (change : Entries → Option Entries) : (path : List String) → Entries → Option Entries
  | [], entries => change entries
  | part :: rest, entries =>
    match entries.find? part with
    | none => do
      let inner ← changeAt? change rest []
      entries.add? part (.table .passed inner)
    | some (.table .inline _) => none
    | some (.table origin inner) => do
      let inner ← changeAt? change rest inner
      return entries.replace part (.table origin inner)
    | some (.tables items) => do
      return entries.replace part (← changeLast? (changeAt? change rest) items)
    | some _ => none

end Entries

/-- A part of a document with one header. -/
structure Section where
  /-- Whether the header stands in double brackets. -/
  repeated : Bool
  /-- The key in the header. -/
  header : List String
  /-- The entries below the header. -/
  assignments : List (List String × Value)

/-- Opens the table of a header and gives it its entries. -/
def Section.addTo? (part : Section) (entries : Entries) : Option Entries := do
  let name ← part.header.getLast?
  let open? (inside : Entries) : Option Entries :=
    match part.repeated, inside.find? name with
    | false, none => do
      inside.add? name (.table .header (← Entries.assignAll? part.assignments []))
    | false, some (.table .passed inner) => do
      return inside.replace name (.table .header (← Entries.assignAll? part.assignments inner))
    | true, none => do
      inside.add? name (.tables [.table .header (← Entries.assignAll? part.assignments [])])
    | true, some (.tables items) => do
      let item := Value.table .header (← Entries.assignAll? part.assignments [])
      return inside.replace name (.tables (items ++ [item]))
    | _, some _ => none
  Entries.changeAt? open? part.header.dropLast entries

/-- The entries of a document: first those before any header, then the sections. -/
def assemble? (assignments : List (List String × Value)) (sections : List Section) :
    Option Entries := do
  let entries ← Entries.assignAll? assignments []
  sections.foldlM (fun entries part => part.addTo? entries) entries

end DocMarkers.Toml
