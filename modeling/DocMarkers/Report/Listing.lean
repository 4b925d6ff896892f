import DocMarkers.Project.Basic
import DocMarkers.Report.Encoding
import DocMarkers.Report.Line

/-! # The list of markers

The list shows every occurrence with the check that it has, without looking up any link.
-/

namespace DocMarkers.Listing

/-- One line of the table, from its five columns. -/
def tableLine (check file kind id marker : String) : String :=
  Report.padded check 6 ++ " " ++ Report.padded file 24 ++ " " ++ Report.padded kind 10 ++ " " ++
    Report.padded id 10 ++ " " ++ marker

/-- The two lines of an occurrence. -/
def occurrenceLines (root : Path) (resolution : Resolution) (occurrence : Occurrence)
    (id : CheckId) : List String :=
  let marker := occurrence.marker
  [tableLine id.text (root.relativeTo occurrence.file) marker.kind.text (marker.id.getD "-")
      (Report.oneLine marker.raw 40),
    Report.padded "" 6 ++ " -> " ++ (resolution.check id).describe]

/-- The list as text. -/
def lines (root : Path) (resolution : Resolution) : List String :=
  if resolution.bound.isEmpty then ["No markers found."]
  else
    tableLine "CHECK" "FILE" "KIND" "ID" "MARKER" :: Report.rule 90 ::
      resolution.bound.flatMap fun (occurrence, id) =>
        occurrenceLines root resolution occurrence id

/-- Whether a check has a form as JSON; the path of a document has one only if it is a text. -/
def hasJson : Check → Bool
  | .url check => (Text.text? check.file.bytes).isSome
  | _ => true

/-- What stands in the way of the list as JSON. -/
def expectJson (resolution : Resolution) : Except Failure Unit :=
  if resolution.bound.all fun (_, id) => hasJson (resolution.check id) then .ok ()
  else .error .pathNotText

/-- The list as JSON. -/
def json (root : Path) (scan : Scan) : Json :=
  let resolution := scan.resolution
  .object [
    ("occurrences", .array (resolution.bound.map fun (occurrence, id) =>
      .object [("file", .string (root.relativeTo occurrence.file)),
        ("marker", occurrence.marker.json), ("check_id", id.json),
        ("check", (resolution.check id).json)])),
    ("cycles", .array (resolution.cycles.map fun members => .array (members.map CheckId.json))),
    ("failures", .array (scan.failures.map (SourceError.json root)))]

end DocMarkers.Listing
