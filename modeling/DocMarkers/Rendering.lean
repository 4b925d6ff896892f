import DocMarkers.Evaluation
import DocMarkers.Marker.Scan

/-! # Rendering

Rendering puts outcomes into a document: each placeholder whose outcome is known gives way to its
argument and a badge, and everything else stays as it is.
-/

namespace DocMarkers

/-- What is shown for each kind of outcome. -/
structure Badges where
  passed : String := "✅"
  failed : String := "❌"
  indeterminate : String := "❔"
  deriving DecidableEq

namespace Badges

/-- The badge of an outcome. -/
def ofOutcome (badges : Badges) : Outcome → String
  | .passed => badges.passed
  | .failed _ => badges.failed
  | .indeterminate _ => badges.indeterminate

end Badges

namespace Rendering

/-- What stands in the place of a placeholder with this outcome: its argument and the badge, or the
badge alone. -/
def replacement (badges : Badges) (raw : String) (outcome : Outcome) : String :=
  match (Marker.read raw).toOption.bind Marker.argument? with
  | some argument => argument ++ " " ++ badges.ofOutcome outcome
  | none => badges.ofOutcome outcome

/-- A text with the placeholders replaced whose outcome is known. -/
def render (outcome? : String → Option Outcome) (badges : Badges) (text : String) : String :=
  let layout := Layout.ofText text.toList
  let cells := layout.cells.flatMap fun (gap, body) =>
    let raw := String.ofList (Placeholder.ofBody body)
    gap ++ ((outcome? raw).elim raw (replacement badges raw)).toList
  String.ofList (cells ++ layout.tail)

/-- The outcome of the placeholder with a text in a file, if it is one of the project. -/
def fileOutcome? (resolution : Resolution) (evaluation : Evaluation) (file : Path)
    (raw : String) : Option Outcome :=
  (resolution.bound.find? fun row => decide (row.1.file.Same file) && row.1.marker.raw == raw).map
    fun (_, id) => evaluation.outcome id

/-- What is noticed while a text is rendered: each replaced placeholder is read once more. -/
def notices (outcome? : String → Option Outcome) (text : String) : List Notice :=
  ((Marker.placeholders text).filter fun raw => (outcome? raw).isSome).flatMap fun raw =>
    (Marker.ignoredClauses raw).map fun clause => .ignoredClause clause raw

end Rendering

end DocMarkers
