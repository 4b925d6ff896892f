import DocMarkers.Path.Basic

/-! # Where a link leads

A link with a scheme leads to the network, or nowhere that can be checked. A link without one leads
into the same document, or to a file: below the documentation root if it starts with a slash, and
below the directory of its own document otherwise. What stands behind `#` or `?` does not change the
file.
-/

namespace DocMarkers

/-- Where a link leads. -/
inductive LinkTarget where
  /-- An address on the network. -/
  | remote (uri : String)
  /-- A place in the file system. -/
  | file (path : Path)
  /-- A place in the same document. -/
  | fragment (link : String)
  /-- An address of a scheme that is not checked. -/
  | unsupported (uri : String)
  deriving DecidableEq

namespace Link

/-- A character that may follow the first letter of a scheme. -/
def isSchemeChar (c : Char) : Bool :=
  c.isAlphanum || c == '+' || c == '-' || c == '.'

/-- A scheme starts with a letter and has at least two characters, so that a drive letter is none.
Letters and digits are those of ASCII. -/
def isScheme : List Char → Bool
  | first :: second :: rest => first.isAlpha && (second :: rest).all isSchemeChar
  | _ => false

/-- The scheme of a link: what stands before its first colon, if that is a scheme. -/
def scheme? (link : List Char) : Option (List Char) := do
  let (scheme, _) ← Text.cutFirst? ':' link
  if isScheme scheme then some scheme else none

/-- The schemes of the network, in any case. -/
def isRemoteScheme (scheme : List Char) : Bool :=
  let lower := scheme.map Char.toLower
  lower == "http".toList || lower == "https".toList

/-- The part of a link that names a file. -/
def filePart (link : List Char) : List Char :=
  link.takeWhile fun c => c != '#' && c != '?'

/-- The file that a link without a scheme leads to, from `file` in the documentation at `root`. -/
def resolve (link : List Char) (file root : Path) : Path :=
  match Text.dropPrefix? ['/'] (filePart link) with
  | some rooted => root.join (Path.ofChars rooted)
  | none => (file.parent?.getD ⟨""⟩).join (Path.ofChars (filePart link))

end Link

/-- Where a link found in `file` leads. -/
def LinkTarget.classify (uri : String) (file root : Path) : LinkTarget :=
  let link := Text.trim uri.toList
  match Link.scheme? link with
  | some scheme =>
    if Link.isRemoteScheme scheme then remote (String.ofList link)
    else unsupported (String.ofList link)
  | none =>
    if link = [] ∨ link.head? = some '#' then fragment (String.ofList link)
    else .file (Link.resolve link file root)

end DocMarkers
