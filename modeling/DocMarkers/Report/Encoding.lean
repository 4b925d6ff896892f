import DocMarkers.Json
import DocMarkers.Outcome
import DocMarkers.Project.Scan

/-! # Reports as JSON

Each part of a report has one form as a JSON value. Where the order of the fields matters, it is the
order in which they are given here.
-/

namespace DocMarkers

/-- A marker with all that was read of it. -/
def Marker.json (marker : Marker) : Json :=
  .object [("raw", .string marker.raw), ("kind", .string marker.kind.text),
    ("argument", .optional marker.argument?), ("id", .optional marker.id),
    ("test_id", .string marker.testId), ("ids", .array (marker.ids.map .string))]

/-- The place of a check. -/
def CheckId.json (id : CheckId) : Json :=
  .number id.index

/-- Why a check is unknown. -/
def UnknownReason.json : UnknownReason → Json
  | unrecognizedTest test =>
    .object [("kind", .string "unrecognized_test"), ("value", .string test)]
  | missingReference id =>
    .object [("kind", .string "missing_reference"), ("value", .string id)]
  | cyclicReference => .object [("kind", .string "cyclic_reference")]

/-- A check. -/
def Check.json : Check → Json
  | url check =>
    .object [("type", .string "url"), ("file", .string check.file.text),
      ("uri", .string check.uri)]
  | composite checks =>
    .object [("type", .string "composite"), ("checks", .array (checks.map CheckId.json))]
  | unknown reason => .object [("type", .string "unknown"), ("reason", reason.json)]

/-- An outcome, with the detail that it has. -/
def Outcome.json (outcome : Outcome) : Json :=
  .object (("status", .string outcome.label) ::
    (outcome.detail?.map fun detail => ("detail", Json.string detail)).toList)

/-- The counts of a summary. -/
def Summary.json (summary : Summary) : Json :=
  .object [("passed", .number summary.passed), ("failed", .number summary.failed),
    ("indeterminate", .number summary.indeterminate)]

/-- What is wrong with one document of the project at `root`. -/
def SourceError.json (root : Path) (error : SourceError) : Json :=
  .object [("file", .string (root.relativeTo error.path)), ("kind", .string error.kind),
    ("error", .string error.message)]

end DocMarkers
