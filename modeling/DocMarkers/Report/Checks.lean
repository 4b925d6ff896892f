import DocMarkers.Evaluation
import DocMarkers.Project.Basic
import DocMarkers.Report.Encoding
import DocMarkers.Report.Line

/-! # The report of the checks

The report has one row for each occurrence and lists what is wrong with documents. As a text, the
rows stand under the names of their documents.
-/

namespace DocMarkers

/-- What came out of the check of one occurrence. -/
structure CheckRow where
  /-- The document, as seen from the root. -/
  file : String
  marker : Marker
  check : Check
  outcome : Outcome

/-- What came out of the checks of a project. -/
structure CheckReport where
  root : Path
  summary : Summary
  rows : List CheckRow
  failures : List SourceError

namespace CheckRow

/-- The row of an occurrence. -/
def ofOccurrence (root : Path) (resolution : Resolution) (evaluation : Evaluation)
    (occurrence : Occurrence) (id : CheckId) : CheckRow where
  file := root.relativeTo occurrence.file
  marker := occurrence.marker
  check := resolution.check id
  outcome := evaluation.outcome id

/-- How an outcome is marked. -/
def sign : Outcome → String
  | .passed => "PASS"
  | .failed _ => "FAIL"
  | .indeterminate _ => "????"

/-- The lines of a row, below the name of its document. -/
def lines (row : CheckRow) : List String :=
  ("  [" ++ sign row.outcome ++ "] " ++ Report.oneLine row.marker.raw 60) ::
    (row.outcome.detail?.map ("         " ++ ·)).toList

/-- A row as JSON. -/
def json (row : CheckRow) : Json :=
  .object [("file", .string row.file), ("marker", .string row.marker.raw),
    ("kind", .string row.marker.kind.text), ("id", .optional row.marker.id),
    ("check", .string row.check.describe), ("outcome", row.outcome.json)]

end CheckRow

namespace CheckReport

/-- The report of a scan and its evaluation. -/
def ofScan (project : Project) (scan : Scan) (evaluation : Evaluation) : CheckReport where
  root := project.root
  summary := evaluation.summary scan.resolution
  rows := scan.resolution.bound.map fun (occurrence, id) =>
    .ofOccurrence project.root scan.resolution evaluation occurrence id
  failures := scan.failures

/-- The lines of rows; the name of a document is put before its first row. -/
def rowLines : (above : Option String) → List CheckRow → List String
  | _, [] => []
  | above, row :: rest =>
    (if above = some row.file then [] else [row.file]) ++ row.lines ++
      rowLines (some row.file) rest

/-- The line that counts the outcomes. -/
def summaryLine (summary : Summary) : String :=
  "Checked " ++ toString summary.total ++ " marker(s): " ++
    toString summary.passed ++ " passed, " ++ toString summary.failed ++ " failed, " ++
    toString summary.indeterminate ++ " indeterminate"

/-- The report as text. -/
def lines (report : CheckReport) : List String :=
  rowLines none report.rows ++ ["", summaryLine report.summary]

/-- What is said about documents that could not be worked on. -/
def complaints (report : CheckReport) : List String :=
  report.failures.map fun failure => failure.message ++ " (" ++ failure.kind ++ ")"

/-- The report as JSON. -/
def json (report : CheckReport) : Json :=
  .object [("root", .string report.root.text), ("summary", report.summary.json),
    ("results", .array (report.rows.map CheckRow.json)),
    ("failures", .array (report.failures.map (SourceError.json report.root)))]

/-- How many checks count as failed; `strict` also counts those that were not decided. -/
def failedChecks (report : CheckReport) (strict : Bool) : Nat :=
  report.summary.failed + if strict then report.summary.indeterminate else 0

/-- The failure of the whole report, unless all is well. -/
def failure? (report : CheckReport) (strict : Bool) : Option Failure :=
  if report.failedChecks strict > 0 ∨ report.failures.length > 0 then
    some (.checksFailed (report.failedChecks strict) report.failures.length)
  else none

end CheckReport

end DocMarkers
