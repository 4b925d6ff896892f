import DocMarkers.Project.Write
import DocMarkers.Report.Encoding

/-! # The report of rendering

The report names the documents that were written and counts those that were left alone.
-/

namespace DocMarkers.Writing

/-- The report as text: a line for each document, and one that counts them. -/
def lines (root : Path) (written : List Path) : List String :=
  written.map fun path => "Wrote " ++ root.relativeTo path

/-- The line that counts the written documents. -/
def summaryLine (written : List Path) : String :=
  "Rendered " ++ toString written.length ++ " file(s)"

/-- What is said about documents that were left alone. -/
def complaints (failures : List SourceError) : List String :=
  failures.map fun failure => failure.message ++ " (left unrendered)"

/-- The report as JSON. -/
def json (written : List Path) (summary : Summary) (failures : List SourceError) : Json :=
  .object [("written", .array (written.map fun path => .string path.text)),
    ("summary", summary.json), ("skipped", .number failures.length)]

end DocMarkers.Writing
