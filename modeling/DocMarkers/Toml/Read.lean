import DocMarkers.Toml.Assemble
import DocMarkers.Toml.Number

/-! # Reading a TOML document

`Toml.read?` reads a document of TOML 1.0 into its entries. Values are nested at most `depthLimit`
deep. A document that is not TOML gives nothing.
-/

namespace DocMarkers.Toml

mutual

/-- A value. The fuel is spent once for each value and each item, so twice as much as there are
characters is enough. -/
def value? : (fuel depth : Nat) → List Char → Option (Value × List Char)
  | 0, _, _ => none
  | fuel + 1, depth, text =>
    match text, depth with
    | '"' :: _, _ => (string? text).map (Prod.map .string id)
    | '\'' :: _, _ => (string? text).map (Prod.map .string id)
    | '[' :: rest, depth + 1 => (items? fuel depth rest).map (Prod.map .array id)
    | '\x7b' :: rest, depth + 1 => do
      let (assignments, left) ← fields? fuel depth true rest
      return (.table .inline (← Entries.assignAll? assignments []), left)
    | 't' :: 'r' :: 'u' :: 'e' :: rest, _ => some (.boolean true, rest)
    | 'f' :: 'a' :: 'l' :: 's' :: 'e' :: rest, _ => some (.boolean false, rest)
    | _, _ => numberOrDate? text

/-- The items of an array, up to its closing bracket. A comma may follow the last one. -/
def items? : (fuel depth : Nat) → List Char → Option (List Value × List Char)
  | 0, _, _ => none
  | fuel + 1, depth, text => do
    match ← skipBetween? false text with
    | ']' :: rest => return ([], rest)
    | start =>
      let (item, rest) ← value? fuel depth start
      match ← skipBetween? false rest with
      | ',' :: more =>
        let (items, left) ← items? fuel depth more
        return (item :: items, left)
      | ']' :: left => return ([item], left)
      | _ => none

/-- The entries of a table in braces, up to its closing brace. Nothing but an entry may follow a
comma, so only the first place may be empty. -/
def fields? : (fuel depth : Nat) → (first : Bool) → List Char →
    Option (List (List String × Value) × List Char)
  | 0, _, _, _ => none
  | fuel + 1, depth, first, text => do
    match skipLineBlanks text, first with
    | '\x7d' :: rest, true => return ([], rest)
    | start, _ =>
      let (key, rest) ← key? start
      let rest ← expect? '=' rest
      let (item, rest) ← value? fuel depth (skipLineBlanks rest)
      match skipLineBlanks rest with
      | ',' :: more =>
        let (items, left) ← fields? fuel depth false more
        return ((key, item) :: items, left)
      | '\x7d' :: left => return ([(key, item)], left)
      | _ => none

end

/-- A key, its value, and the end of their line. -/
def assignment? (text : List Char) : Option ((List String × Value) × List Char) := do
  let (key, rest) ← key? text
  let rest := skipLineBlanks (← expect? '=' rest)
  let (value, rest) ← value? (2 * rest.length + 2) depthLimit rest
  return ((key, value), ← lineEnd? rest)

/-- A header behind its opening brackets, up to the end of its line. -/
def header? (repeated : Bool) (text : List Char) : Option (List String × List Char) := do
  let (key, rest) ← key? text
  let rest ← expect? ']' rest
  let rest ← if repeated then expect? ']' rest else some rest
  return (key, ← lineEnd? rest)

/-- A line of a document that says something. -/
inductive Line where
  | assignment (key : List String) (value : Value)
  | header (repeated : Bool) (key : List String)

/-- The lines of a document. The fuel is spent once for each line. -/
def lines? : (fuel : Nat) → List Char → Option (List Line)
  | 0, _ => none
  | fuel + 1, text =>
    match skipLineBlanks text with
    | [] => some []
    | '[' :: '[' :: rest => do
      let (key, left) ← header? true rest
      return .header true key :: (← lines? fuel left)
    | '[' :: rest => do
      let (key, left) ← header? false rest
      return .header false key :: (← lines? fuel left)
    | start =>
      if start.head? = some '#' ∨ (newline? start).isSome then do
        lines? fuel (← lineEnd? start)
      else do
        let ((key, value), left) ← assignment? start
        return .assignment key value :: (← lines? fuel left)

/-- The lines sorted into those before any header and the sections. -/
def sections : List Line → List (List String × Value) × List Section
  | [] => ([], [])
  | .assignment key value :: rest =>
    let (assignments, parts) := sections rest
    ((key, value) :: assignments, parts)
  | .header repeated key :: rest =>
    let (assignments, parts) := sections rest
    ([], ⟨repeated, key, assignments⟩ :: parts)

/-- A byte order mark at the start of a document does not count. -/
def skipByteOrderMark : List Char → List Char
  | '\uFEFF' :: rest => rest
  | text => text

/-- The entries of a document. -/
def read? (document : String) : Option Entries := do
  let text := skipByteOrderMark document.toList
  let (assignments, parts) := sections (← lines? (text.length + 1) text)
  assemble? assignments parts

end DocMarkers.Toml
