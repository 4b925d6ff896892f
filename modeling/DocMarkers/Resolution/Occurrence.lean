import DocMarkers.Distinct
import DocMarkers.Marker.Basic
import DocMarkers.Path.Map

/-! # Occurrences

An occurrence is a marker in a file. The occurrences of a project stand in the order of their files,
and within a file in the order of its markers; a marker that a file repeats occurs once.

An id means the first occurrence that declares it, whatever file refers to it.
-/

namespace DocMarkers

/-- A marker in a file. -/
structure Occurrence where
  file : Path
  marker : Marker

namespace Occurrence

/-- Two occurrences are the same when their files are the same path and their markers the same
text. -/
def Same (left right : Occurrence) : Prop :=
  left.file.Same right.file ∧ left.marker.raw = right.marker.raw

instance (left right : Occurrence) : Decidable (left.Same right) :=
  inferInstanceAs (Decidable (_ ∧ _))

/-- The occurrences of a project, in order. -/
def ofFiles (files : Path.Map (List Marker)) : List Occurrence :=
  files.entries.flatMap fun (file, markers) =>
    (distinctOn Marker.raw markers).map fun marker => ⟨file, marker⟩

/-- Whether the marker declares an id. -/
def declares (occurrence : Occurrence) (id : String) : Bool :=
  occurrence.marker.id == some id

/-- The place of the first occurrence that declares an id. -/
def declarer? (occurrences : List Occurrence) (id : String) : Option (Fin occurrences.length) :=
  occurrences.findFinIdx? (·.declares id)

end Occurrence

end DocMarkers
