import DocMarkers.Evaluation
import Mathlib.Data.List.Basic

/-! # The meaning of checks

`Means checks root probe id outcome` is the plain meaning of a check: a link has the answer of the
probe for its target, an unknown check is indeterminate, and the outcome of a composite check is the
verdict over the outcomes of its parts, each counted as often as it is referred to. A check has at
most one outcome in this sense (`Means.unique`), and none when it is on a circle.

The verdict is stated by its rules (`Verdict`); `verdict_iff` says that `Outcome.combine` follows
them.
-/

namespace DocMarkers

/-- The verdict over the outcomes of all parts of a composite check. -/
inductive Verdict (parts : List Outcome) : Outcome → Prop where
  /-- Some parts failed. -/
  | failed (someFailed : 0 < parts.countP Outcome.isFailed) :
      Verdict parts (.failed (toString (parts.countP Outcome.isFailed) ++ " of " ++
        toString parts.length ++ " sub-checks failed"))
  /-- No part failed, but some could not be decided. -/
  | indeterminate (noneFailed : parts.countP Outcome.isFailed = 0)
      (someUndecided : 0 < parts.countP Outcome.isIndeterminate) :
      Verdict parts (.indeterminate (toString (parts.countP Outcome.isIndeterminate) ++ " of " ++
        toString parts.length ++ " sub-checks indeterminate"))
  /-- All parts passed. -/
  | passed (noneFailed : parts.countP Outcome.isFailed = 0)
      (allDecided : parts.countP Outcome.isIndeterminate = 0) : Verdict parts .passed

theorem verdict_combine (parts : List Outcome) : Verdict parts (Outcome.combine parts) := by
  unfold Outcome.combine
  simp only [String.append_assoc]
  by_cases failures : parts.countP Outcome.isFailed > 0
  · rw [if_pos failures]
    have rule := Verdict.failed failures
    simp only [String.append_assoc] at rule
    exact rule
  · have noneFailed := Nat.eq_zero_of_not_pos failures
    rw [if_neg failures]
    by_cases undecided : parts.countP Outcome.isIndeterminate > 0
    · rw [if_pos undecided]
      have rule := Verdict.indeterminate noneFailed undecided
      simp only [String.append_assoc] at rule
      exact rule
    · rw [if_neg undecided]
      exact .passed noneFailed (Nat.eq_zero_of_not_pos undecided)

theorem Verdict.eq_combine {parts : List Outcome} {outcome : Outcome}
    (verdict : Verdict parts outcome) : outcome = Outcome.combine parts := by
  unfold Outcome.combine
  simp only [String.append_assoc]
  cases verdict with
  | failed someFailed =>
      rw [if_pos someFailed]
      simp only [String.append_assoc]
      rfl
  | indeterminate noneFailed someUndecided =>
      rw [if_neg (Nat.not_lt.mpr (Nat.le_of_eq noneFailed)), if_pos someUndecided]
      simp only [String.append_assoc]
      rfl
  | passed noneFailed allDecided =>
      rw [if_neg (Nat.not_lt.mpr (Nat.le_of_eq noneFailed)),
        if_neg (Nat.not_lt.mpr (Nat.le_of_eq allDecided))]

/-- Combining outcomes follows the rules of the verdict. -/
theorem verdict_iff {parts : List Outcome} {outcome : Outcome} :
    Verdict parts outcome ↔ outcome = Outcome.combine parts := by
  constructor
  · exact Verdict.eq_combine
  · rintro rfl
    exact verdict_combine parts

theorem Verdict.unique {parts : List Outcome} {first second : Outcome}
    (left : Verdict parts first) (right : Verdict parts second) : first = second :=
  left.eq_combine.trans right.eq_combine.symm

/-- The outcome that a check means, by recursion on what it refers to. -/
inductive Means (checks : List Check) (root : Path) (probe : Probe) : CheckId → Outcome → Prop where
  /-- A link has the answer of the probe for its target. -/
  | url {id : CheckId} {check : UrlCheck} (found : checks[id.index]? = some (.url check)) :
      Means checks root probe id (probe (check.target root))
  /-- What is unknown cannot be decided, for the reason in words. -/
  | unknown {id : CheckId} {reason : UnknownReason}
      (found : checks[id.index]? = some (.unknown reason)) :
      Means checks root probe id (.indeterminate reason.message)
  /-- A composite check has the verdict over its parts. -/
  | composite {id : CheckId} {parts : List CheckId} {outcomes : CheckId → Outcome}
      {outcome : Outcome} (found : checks[id.index]? = some (.composite parts))
      (inner : ∀ part ∈ parts, Means checks root probe part (outcomes part))
      (verdict : Verdict (parts.map outcomes) outcome) : Means checks root probe id outcome

/-- A check means at most one outcome. -/
theorem Means.unique {checks : List Check} {root : Path} {probe : Probe} {id : CheckId}
    {first second : Outcome} (left : Means checks root probe id first)
    (right : Means checks root probe id second) : first = second := by
  induction left generalizing second with
  | url found =>
      cases right with
      | url otherFound =>
          obtain rfl := Check.url.inj (Option.some.inj (found.symm.trans otherFound))
          rfl
      | unknown otherFound => cases found.symm.trans otherFound
      | composite otherFound _ _ => cases found.symm.trans otherFound
  | unknown found =>
      cases right with
      | url otherFound => cases found.symm.trans otherFound
      | unknown otherFound =>
          obtain rfl := Check.unknown.inj (Option.some.inj (found.symm.trans otherFound))
          rfl
      | composite otherFound _ _ => cases found.symm.trans otherFound
  | composite found _ verdict ih =>
      cases right with
      | url otherFound => cases found.symm.trans otherFound
      | unknown otherFound => cases found.symm.trans otherFound
      | composite otherFound otherInner otherVerdict =>
          obtain rfl := Check.composite.inj (Option.some.inj (found.symm.trans otherFound))
          have same := List.map_congr_left fun part member =>
            ih part member (otherInner part member)
          rw [same] at verdict
          exact verdict.unique otherVerdict

end DocMarkers
