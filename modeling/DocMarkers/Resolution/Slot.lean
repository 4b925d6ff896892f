import DocMarkers.Check
import DocMarkers.Resolution.Occurrence

/-! # The list of checks

Every check stands for a slot: an occurrence that has a check of its own, a test that nobody
implements, or an id that nobody declares. Occurrences with one unknown test share its slot, and so
do references to one undeclared id.

The list of checks has the different slots in the order in which they are first needed: first those
of the occurrences, then those that only a reference needs. The id of a check is the place of its
slot, so the wiring of a composite marker is a look-up.
-/

namespace DocMarkers

/-- What a check stands for, among a number of occurrences. -/
inductive Slot (count : Nat) where
  /-- The occurrence at this place, which has a check of its own. -/
  | own (place : Fin count)
  /-- All occurrences that name this unknown test. -/
  | unrecognized (test : String)
  /-- All references to this undeclared id. -/
  | missing (id : String)
  deriving DecidableEq

namespace Slot

variable (occurrences : List Occurrence)

/-- The slot of an occurrence. -/
def ofPlace (place : Fin occurrences.length) : Slot occurrences.length :=
  let marker := (occurrences.get place).marker
  match marker.kind with
  | .composite => own place
  | .primitive =>
    if marker.testId = Marker.defaultTestId then own place else unrecognized marker.testId

/-- The slot that an id refers to. -/
def ofReference (id : String) : Slot occurrences.length :=
  match Occurrence.declarer? occurrences id with
  | some place => ofPlace occurrences place
  | none => missing id

/-- The slots of the occurrences, in order. -/
def ofOccurrences : List (Slot occurrences.length) :=
  (List.finRange occurrences.length).map (ofPlace occurrences)

/-- The slots that composite markers refer to, in order. -/
def ofReferences : List (Slot occurrences.length) :=
  occurrences.flatMap fun occurrence => occurrence.marker.ids.map (ofReference occurrences)

/-- The slots that have a check, in the order of the checks. -/
def all : List (Slot occurrences.length) :=
  distinct (ofOccurrences occurrences ++ ofReferences occurrences)

/-- The id of a slot's check. -/
def checkId {count : Nat} (slots : List (Slot count)) (slot : Slot count) : CheckId :=
  ⟨slots.idxOf slot⟩

/-- The check of a slot, as far as single references decide it: whether they run in a circle is not
looked at yet. -/
def check (slots : List (Slot occurrences.length)) : Slot occurrences.length → Check
  | own place =>
    match (occurrences.get place).marker.claim with
    | .primitive argument => .url (.ofArgument (occurrences.get place).file argument)
    | .composite _ ids _ =>
      .composite (ids.map fun id => checkId slots (ofReference occurrences id))
  | unrecognized test => .unknown (.unrecognizedTest test)
  | missing id => .unknown (.missingReference id)

end Slot

end DocMarkers
