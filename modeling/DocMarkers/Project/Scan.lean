import DocMarkers.Marker.Scan
import DocMarkers.Project.Discovery
import DocMarkers.Resolution.Resolve

/-! # Scanning a project

A scan reads the documents of a project and resolves their markers. A document that cannot be read,
or that holds a placeholder that cannot be read, is reported; its markers do not take part, and all
other documents are worked on as if it were not there.
-/

namespace DocMarkers

/-- What is wrong with one document. -/
inductive SourceError where
  /-- The document cannot be read. -/
  | unreadable (path : Path) (error : FileError)
  /-- A placeholder of the document cannot be read. -/
  | malformed (path : Path) (error : MarkerError)

namespace SourceError

/-- The document. -/
def path : SourceError → Path
  | unreadable path _ => path
  | malformed path _ => path

/-- The kind of error in a word. -/
def kind : SourceError → String
  | unreadable .. => "unreadable"
  | malformed .. => "malformed"

/-- The wording of each error. -/
def message : SourceError → String
  | unreadable path error => "Failed to read " ++ path.text ++ ": " ++ error.message
  | malformed path error => "Malformed placeholder in " ++ path.text ++ ": " ++ error.message

end SourceError

/-- The documents of a project that can be read, and what is wrong with the others. -/
structure Sources where
  texts : Path.Map String
  failures : List SourceError

namespace Sources

/-- Reads documents. -/
def read (tree : Tree) (documents : List Path) : Sources where
  texts := .ofList (documents.filterMap fun path =>
    match tree.readText path with
    | .ok text => some (path, text)
    | .error _ => none)
  failures := documents.filterMap fun path =>
    match tree.readText path with
    | .ok _ => none
    | .error error => some (.unreadable path error)

/-- What is noticed while documents are read. -/
def notices (sources : Sources) : List Notice :=
  sources.failures.filterMap fun
    | .unreadable path error => some (.unreadable path error.message)
    | .malformed .. => none

end Sources

/-- What is known of a project after its documents were read. -/
structure Scan where
  /-- The texts of the documents that can be read. -/
  texts : Path.Map String
  /-- The markers of the documents whose placeholders can all be read. -/
  markers : Path.Map (List Marker)
  resolution : Resolution
  failures : List SourceError

namespace Scan

/-- Reads the placeholders of documents and resolves their markers. -/
def ofSources (sources : Sources) : Scan :=
  let markers := sources.texts.filterMap fun _ text => (Marker.readAll text).toOption
  { texts := sources.texts
    markers
    resolution := resolve markers
    failures := sources.failures ++ sources.texts.entries.filterMap fun (path, text) =>
      match Marker.readAll text with
      | .ok _ => none
      | .error error => some (.malformed path error) }

/-- The placeholders up to the first one that cannot be read, which is one of them. -/
def readPart : List String → List String
  | [] => []
  | raw :: rest => if (Marker.read raw).isOk then raw :: readPart rest else [raw]

/-- What is noticed in one document. -/
def documentNotices (path : Path) (text : String) : List Notice :=
  ((readPart (Marker.placeholders text)).flatMap fun raw =>
    (Marker.ignoredClauses raw).map fun clause => .ignoredClause clause raw) ++
  match Marker.readAll text with
  | .ok markers => [.foundMarkers path markers.length]
  | .error error => [.malformed path error]

/-- What is noticed while documents are scanned. -/
def notices (scan : Scan) : List Notice :=
  (scan.texts.entries.flatMap fun (path, text) => documentNotices path text) ++
    Resolution.notices (Occurrence.ofFiles scan.markers)

end Scan

end DocMarkers
