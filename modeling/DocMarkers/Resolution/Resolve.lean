import DocMarkers.Notice
import DocMarkers.Resolution.Cycle
import DocMarkers.Resolution.Slot

/-! # Resolving the markers of a project

Resolution gives every occurrence a check. It always succeeds: what cannot be resolved becomes a
check that is unknown. When several markers declare one id, the first occurrence has it.
-/

namespace DocMarkers

/-- The markers of a project with their checks. -/
structure Resolution where
  /-- The occurrences in order, each with the id of its check. -/
  bound : List (Occurrence × CheckId)
  /-- The checks; an id is a place in this list. -/
  checks : List Check
  /-- The composite checks that referred to each other, in classes. -/
  cycles : List (List CheckId)

namespace Resolution

/-- Resolves occurrences that stand in order. -/
def ofOccurrences (occurrences : List Occurrence) : Resolution :=
  let slots := Slot.all occurrences
  let wired := slots.map (Slot.check occurrences slots)
  let circles := DocMarkers.cycles wired
  { bound := occurrences.zip ((Slot.ofOccurrences occurrences).map (Slot.checkId slots))
    checks := breakCycles wired circles
    cycles := circles }

/-- The check with an id. Every id that a resolution holds is a place in its list of checks. -/
def check (resolution : Resolution) (id : CheckId) : Check :=
  (resolution.checks[id.index]?).getD (.unknown .cyclicReference)

/-- The id of the check of an occurrence, if the occurrence is one of the project. -/
def checkId? (resolution : Resolution) (occurrence : Occurrence) : Option CheckId :=
  (resolution.bound.find? fun row => decide (row.1.Same occurrence)).map (·.2)

/-- A declaration of an id that an earlier occurrence has. -/
def shadowing? (occurrences : List Occurrence) (place : Fin occurrences.length) :
    Option Notice := do
  let occurrence := occurrences.get place
  let id ← occurrence.marker.id
  let first ← Occurrence.declarer? occurrences id
  if first.val < place.val then
    some (.shadowed id occurrence.file (occurrences.get first).file)
  else none

/-- A notice for each occurrence that names a test that does not exist. -/
def testNotices (occurrences : List Occurrence) : List Notice :=
  occurrences.filterMap fun occurrence =>
    match occurrence.marker.kind with
    | .composite => none
    | .primitive =>
      if occurrence.marker.testId = Marker.defaultTestId then none
      else some (.unrecognizedTest occurrence.marker.testId occurrence.file)

/-- A notice for each reference to an id that no occurrence declares. -/
def referenceNotices (occurrences : List Occurrence) : List Notice :=
  occurrences.flatMap fun occurrence =>
    (occurrence.marker.ids.filter fun id => (Occurrence.declarer? occurrences id).isNone).map
      fun id => .unknownReference occurrence.file id

/-- What is noticed while occurrences are resolved, in order. -/
def notices (occurrences : List Occurrence) : List Notice :=
  let resolution := ofOccurrences occurrences
  testNotices occurrences ++
    (List.finRange occurrences.length).filterMap (shadowing? occurrences) ++
    referenceNotices occurrences ++
    resolution.cycles.map .circle ++
    [.resolved occurrences.length resolution.checks.length resolution.cycles.length]

end Resolution

/-- Resolves the markers of each file of a project. -/
def resolve (files : Path.Map (List Marker)) : Resolution :=
  .ofOccurrences (Occurrence.ofFiles files)

end DocMarkers
