/-! # Outcomes

The outcome of a check is that it passed, that it failed, or that it could not be decided. A
composite check fails if any of its parts failed, and passes if all of them passed.
-/

namespace DocMarkers

/-- What came out of a check. -/
inductive Outcome where
  | passed
  | failed (detail : String)
  | indeterminate (detail : String)
  deriving DecidableEq, Inhabited

namespace Outcome

/-- The outcome in a word. -/
def label : Outcome → String
  | passed => "passed"
  | failed _ => "failed"
  | indeterminate _ => "indeterminate"

/-- What is told about an outcome that is no pass. -/
def detail? : Outcome → Option String
  | passed => none
  | failed detail => some detail
  | indeterminate detail => some detail

/-- The outcome with its detail. -/
def text (outcome : Outcome) : String :=
  match outcome.detail? with
  | none => outcome.label
  | some detail => outcome.label ++ ": " ++ detail

def isPassed : Outcome → Bool
  | passed => true
  | _ => false

def isFailed : Outcome → Bool
  | failed _ => true
  | _ => false

def isIndeterminate : Outcome → Bool
  | indeterminate _ => true
  | _ => false

/-- The outcome of a composite check, from those of its parts. -/
def combine (parts : List Outcome) : Outcome :=
  let failures := parts.countP isFailed
  let undecided := parts.countP isIndeterminate
  let share (count : Nat) := toString count ++ " of " ++ toString parts.length ++ " sub-checks "
  if failures > 0 then failed (share failures ++ "failed")
  else if undecided > 0 then indeterminate (share undecided ++ "indeterminate")
  else passed

end Outcome

/-- How many outcomes there are of each kind. -/
structure Summary where
  passed : Nat
  failed : Nat
  indeterminate : Nat
  deriving DecidableEq

namespace Summary

/-- Counts outcomes. -/
def ofOutcomes (outcomes : List Outcome) : Summary where
  passed := outcomes.countP Outcome.isPassed
  failed := outcomes.countP Outcome.isFailed
  indeterminate := outcomes.countP Outcome.isIndeterminate

/-- How many outcomes were counted. -/
def total (summary : Summary) : Nat :=
  summary.passed + summary.failed + summary.indeterminate

/-- No outcome is left out of the count. -/
theorem total_ofOutcomes (outcomes : List Outcome) :
    (ofOutcomes outcomes).total = outcomes.length := by
  induction outcomes with
  | nil => rfl
  | cons outcome rest ih =>
    simp only [total, ofOutcomes] at ih
    cases outcome <;>
      simp only [total, ofOutcomes, List.countP_cons, List.length_cons, Outcome.isPassed,
        Outcome.isFailed, Outcome.isIndeterminate, if_true, Bool.false_eq_true, if_false] <;>
      omega

end Summary

end DocMarkers
