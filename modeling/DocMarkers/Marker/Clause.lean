import DocMarkers.Marker.Basic
import DocMarkers.Text.Split

/-! # Reading a placeholder

A placeholder is `!DACDOC`, a body, and `!`. The body is a row of clauses with `;` between them.
A clause `key=value` with one of the three known keys is a parameter; every other clause is bare, so
that a link may hold `=`. The first bare clause is the argument and the later ones count for
nothing.

`Marker.read` reads the clauses from left to right and stops at the first faulty one.
-/

namespace DocMarkers

namespace Placeholder

/-- The character at both ends of a placeholder. -/
def frame : Char := '!'

/-- The characters that open a placeholder. -/
def opening : List Char := "!DACDOC".toList

/-- The placeholder with a given body. -/
def ofBody (body : List Char) : List Char :=
  opening ++ body ++ [frame]

/-- The body of a placeholder: what stands between the opening and a frame at the very end. -/
def body? (raw : List Char) : Option (List Char) := do
  let rest ← Text.dropPrefix? opening raw
  if rest.getLast? = some frame then some rest.dropLast else none

end Placeholder

/-- One clause of a placeholder, trimmed. -/
inductive Clause where
  | bare (text : List Char)
  | parameter (parameter : Parameter) (value : List Char)
  deriving DecidableEq

namespace Clause

/-- The parameter with a given key. -/
def parameter? (key : List Char) : Option Parameter :=
  if key = "id".toList then some .id
  else if key = "test".toList then some .test
  else if key = "ids".toList then some .ids
  else none

/-- What a trimmed clause is. -/
def read (text : List Char) : Clause :=
  match Text.cutFirst? '=' text with
  | none => bare text
  | some (key, value) =>
    match parameter? (Text.trim key) with
    | none => bare text
    | some known => parameter known (Text.trim value)

/-- The clauses of a body that are not blank. -/
def ofBody (body : List Char) : List Clause :=
  (((Text.splitOn ';' body).map Text.trim).filter (!·.isEmpty)).map read

/-- The items of a list of ids: what stands between the commas, trimmed, unless it is blank. -/
def idItems (value : List Char) : List (List Char) :=
  ((Text.splitOn ',' value).map Text.trim).filter (!·.isEmpty)

end Clause

namespace Marker

/-- What has been read of a placeholder so far. -/
structure Reading where
  argument : Option (List Char) := none
  id : Option (List Char) := none
  test : Option (List Char) := none
  ids : Option { items : List (List Char) // items ≠ [] } := none
  /-- The bare clauses after the first. -/
  ignored : List (List Char) := []

/-- What can be wrong with one clause. -/
inductive Fault where
  | duplicate (parameter : Parameter)
  | emptyValue (parameter : Parameter)
  | emptyIds
  deriving DecidableEq

namespace Reading

/-- Whether a parameter has been given. -/
def has (reading : Reading) : Parameter → Bool
  | .id => reading.id.isSome
  | .test => reading.test.isSome
  | .ids => reading.ids.isSome

/-- Reads one more clause. That a parameter was given before is noticed before its value is. -/
def add (reading : Reading) : Clause → Except Fault Reading
  | .bare text =>
    match reading.argument with
    | none => .ok { reading with argument := some text }
    | some _ => .ok { reading with ignored := reading.ignored ++ [text] }
  | .parameter parameter value =>
    if reading.has parameter then .error (.duplicate parameter)
    else
      match parameter with
      | .ids =>
        if items : Clause.idItems value ≠ [] then .ok { reading with ids := some ⟨_, items⟩ }
        else .error .emptyIds
      | .id =>
        if value = [] then .error (.emptyValue .id) else .ok { reading with id := some value }
      | .test =>
        if value = [] then .error (.emptyValue .test) else .ok { reading with test := some value }

/-- Reads clauses up to the first faulty one: what was read, and the fault if there is one. -/
def addAll (reading : Reading) : List Clause → Reading × Option Fault
  | [] => (reading, none)
  | clause :: rest =>
    match reading.add clause with
    | .ok next => next.addAll rest
    | .error fault => (reading, some fault)

/-- The claim of a placeholder whose clauses are all read. A list of ids makes it composite;
without one it needs an argument. -/
def claim? (reading : Reading) : Option Claim :=
  match reading.ids, reading.argument with
  | some items, argument =>
    some (.composite (argument.map String.ofList) (items.1.map String.ofList)
      (by simpa using items.2))
  | none, some argument => some (.primitive (String.ofList argument))
  | none, none => none

end Reading

/-- The error of a fault found in `raw`. -/
def Fault.error (raw : String) : Fault → MarkerError
  | duplicate parameter => .duplicateParameter parameter raw
  | emptyValue parameter => .emptyValue parameter raw
  | emptyIds => .emptyIds raw

/-- Reads the clauses of a placeholder's text. -/
def readClauses (raw : String) : Option (Reading × Option Fault) :=
  (Placeholder.body? raw.toList).map fun body => ({} : Reading).addAll (Clause.ofBody body)

/-- The marker that a text spells as a whole. -/
def read (raw : String) : Except MarkerError Marker :=
  match readClauses raw with
  | none => .error (.notAPlaceholder raw)
  | some (_, some fault) => .error (fault.error raw)
  | some (reading, none) =>
    match reading.claim? with
    | none => .error (.missingArgument raw)
    | some claim =>
      .ok {
        raw
        id := reading.id.map String.ofList
        testId := (reading.test.map String.ofList).getD defaultTestId
        claim }

/-- The bare clauses that count for nothing, up to the first faulty clause. -/
def ignoredClauses (raw : String) : List String :=
  match readClauses raw with
  | none => []
  | some (reading, _) => reading.ignored.map String.ofList

end Marker

end DocMarkers
