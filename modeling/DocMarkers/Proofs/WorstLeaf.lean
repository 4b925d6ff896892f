import DocMarkers.Proofs.Memoisation
import Mathlib.Order.Bounds.Basic

/-! # The worst leaf decides

The statuses of outcomes are ordered from a failure up to a pass. The status of a composite check is
the least status of its leaves, which are the links and the unknown checks that references lead to
from it (`Means.isLeast_status`). There is always such a leaf: a composite marker refers to some id,
and wiring drops none, so the rule that a check without parts passes is never put to use
(`composite_ne_nil`).

Since the leaves are the same whatever the probe answers, better answers never make a status worse
(`Means.status_le`).
-/

namespace DocMarkers

open Relation

/-- The kinds of outcome, without the details. -/
inductive Status where
  | failed
  | indeterminate
  | passed
  deriving DecidableEq

namespace Status

/-- The place of a status in the order from the worst to the best. -/
def rank : Status → Nat
  | failed => 0
  | indeterminate => 1
  | passed => 2

theorem rank_injective : Function.Injective rank := by
  intro left right same
  cases left <;> cases right <;> first | rfl | cases same

instance : LinearOrder Status :=
  LinearOrder.lift' rank rank_injective

theorem le_iff_rank_le {left right : Status} : left ≤ right ↔ left.rank ≤ right.rank :=
  Iff.rfl

theorem failed_le (status : Status) : failed ≤ status :=
  le_iff_rank_le.mpr (Nat.zero_le _)

theorem le_passed (status : Status) : status ≤ passed := by
  rw [le_iff_rank_le]
  cases status <;> decide

theorem indeterminate_le_iff {status : Status} : indeterminate ≤ status ↔ status ≠ failed := by
  rw [le_iff_rank_le]
  cases status <;> decide

end Status

/-- The kind of an outcome. -/
def Outcome.status : Outcome → Status
  | passed => .passed
  | failed _ => .failed
  | indeterminate _ => .indeterminate

theorem Outcome.isFailed_iff {outcome : Outcome} :
    outcome.isFailed = true ↔ outcome.status = .failed := by
  cases outcome <;> simp [isFailed, status]

theorem Outcome.isIndeterminate_iff {outcome : Outcome} :
    outcome.isIndeterminate = true ↔ outcome.status = .indeterminate := by
  cases outcome <;> simp [isIndeterminate, status]

/-- The verdict over some parts is as bad as the worst of them. -/
theorem Verdict.isLeast_status {parts : List Outcome} {outcome : Outcome}
    (verdict : Verdict parts outcome) (nonempty : parts ≠ []) :
    IsLeast {status | ∃ part ∈ parts, part.status = status} outcome.status := by
  have unfailed (noneFailed : parts.countP Outcome.isFailed = 0) :
      ∀ part ∈ parts, part.status ≠ .failed := by
    intro part member failed
    exact List.countP_eq_zero.mp noneFailed part member (Outcome.isFailed_iff.mpr failed)
  cases verdict with
  | failed someFailed =>
      obtain ⟨part, member, failed⟩ := List.countP_pos_iff.mp someFailed
      refine ⟨⟨part, member, Outcome.isFailed_iff.mp failed⟩, ?_⟩
      intro status _
      exact status.failed_le
  | indeterminate noneFailed someUndecided =>
      obtain ⟨part, member, undecided⟩ := List.countP_pos_iff.mp someUndecided
      refine ⟨⟨part, member, Outcome.isIndeterminate_iff.mp undecided⟩, ?_⟩
      rintro _ ⟨other, inside, rfl⟩
      exact Status.indeterminate_le_iff.mpr (unfailed noneFailed other inside)
  | passed noneFailed allDecided =>
      have allPassed : ∀ part ∈ parts, part.status = .passed := by
        intro part member
        have decided := List.countP_eq_zero.mp allDecided part member
        rw [Outcome.isIndeterminate_iff] at decided
        cases status : part.status with
        | failed => exact absurd status (unfailed noneFailed part member)
        | indeterminate => exact absurd status decided
        | passed => rfl
      obtain ⟨part, member⟩ := List.exists_mem_of_ne_nil parts nonempty
      refine ⟨⟨part, member, allPassed part member⟩, ?_⟩
      rintro _ ⟨other, inside, rfl⟩
      exact (allPassed other inside).ge

/-- References lead from the check `id` to `leaf`, which is no composite check. -/
structure Leaf (checks : List Check) (id leaf : CheckId) : Prop where
  leads : ReflTransGen (Combines checks) id leaf
  simple : ∃ check, checks[leaf.index]? = some check ∧ check.isComposite = false

section Leaves

variable {checks : List Check} {root : Path} {probe : Probe} {id leaf : CheckId}

/-- A leaf is a link or unknown. -/
theorem Leaf.url_or_unknown (isLeaf : Leaf checks id leaf) :
    (∃ check, checks[leaf.index]? = some (.url check)) ∨
      ∃ reason, checks[leaf.index]? = some (.unknown reason) := by
  obtain ⟨check, found, simple⟩ := isLeaf.simple
  cases check with
  | url check => exact .inl ⟨check, found⟩
  | composite parts => cases simple
  | unknown reason => exact .inr ⟨reason, found⟩

/-- The only leaf of a check that is not composite is the check itself. -/
theorem leaf_iff_of_simple {check : Check} (found : checks[id.index]? = some check)
    (simple : check.isComposite = false) : Leaf checks id leaf ↔ leaf = id := by
  constructor
  · rintro ⟨leads, -⟩
    rcases leads.cases_head with rfl | ⟨_, ⟨parts, composite, -⟩, -⟩
    · rfl
    · rw [Option.some.inj (found.symm.trans composite)] at simple
      cases simple
  · rintro rfl
    exact ⟨.refl, check, found, simple⟩

/-- The leaves of a composite check are those of its parts. -/
theorem leaf_iff_of_composite {parts : List CheckId}
    (found : checks[id.index]? = some (.composite parts)) :
    Leaf checks id leaf ↔ ∃ part ∈ parts, Leaf checks part leaf := by
  constructor
  · rintro ⟨leads, check, leafFound, simple⟩
    rcases leads.cases_head with rfl | ⟨part, ⟨others, composite, member⟩, rest⟩
    · rw [← Option.some.inj (found.symm.trans leafFound)] at simple
      cases simple
    · obtain rfl := parts_unique found composite
      exact ⟨part, member, rest, check, leafFound, simple⟩
  · rintro ⟨part, member, rest, simple⟩
    exact ⟨.head ⟨parts, found, member⟩ rest, simple⟩

/-- A check that is not composite has its own status as the least of its leaves. -/
theorem Means.isLeast_status_of_simple {outcome : Outcome} {check : Check}
    (means : Means checks root probe id outcome) (found : checks[id.index]? = some check)
    (simple : check.isComposite = false) :
    IsLeast {status | ∃ leaf result, Leaf checks id leaf ∧ Means checks root probe leaf result ∧
      result.status = status} outcome.status := by
  refine ⟨⟨id, outcome, (leaf_iff_of_simple found simple).mpr rfl, means, rfl⟩, ?_⟩
  rintro _ ⟨leaf, result, isLeaf, leafMeans, rfl⟩
  obtain rfl := (leaf_iff_of_simple found simple).mp isLeaf
  rw [means.unique leafMeans]

/-- Where no composite check is without parts, every status is the least status of the leaves. -/
theorem Means.isLeast_status (filled : ∀ id : CheckId, checks[id.index]? ≠ some (.composite []))
    {outcome : Outcome} (means : Means checks root probe id outcome) :
    IsLeast {status | ∃ leaf result, Leaf checks id leaf ∧ Means checks root probe leaf result ∧
      result.status = status} outcome.status := by
  induction means with
  | url found => exact (Means.url found).isLeast_status_of_simple found rfl
  | unknown found => exact (Means.unknown found).isLeast_status_of_simple found rfl
  | @composite id parts outcomes outcome found inner verdict ih =>
      have nonempty : parts.map outcomes ≠ [] := by
        intro empty
        rw [List.map_eq_nil_iff.mp empty] at found
        exact filled id found
      obtain ⟨⟨_, member, worst⟩, least⟩ := verdict.isLeast_status nonempty
      obtain ⟨part, inside, rfl⟩ := List.mem_map.mp member
      obtain ⟨⟨leaf, result, isLeaf, means, same⟩, -⟩ := ih part inside
      refine ⟨⟨leaf, result, ?_, means, same.trans worst⟩, ?_⟩
      · exact (leaf_iff_of_composite found).mpr ⟨part, inside, isLeaf⟩
      · rintro _ ⟨other, otherResult, isOther, otherMeans, rfl⟩
        obtain ⟨holder, held, isOther⟩ := (leaf_iff_of_composite found).mp isOther
        calc outcome.status
          _ ≤ (outcomes holder).status := least ⟨_, List.mem_map_of_mem held, rfl⟩
          _ ≤ otherResult.status :=
            (ih holder held).2 ⟨other, otherResult, isOther, otherMeans, rfl⟩

/-- The checks of leaves fare no worse with better answers. -/
theorem Leaf.exists_means_le {better : Probe} {outcome : Outcome} (isLeaf : Leaf checks id leaf)
    (improves : ∀ target, (probe target).status ≤ (better target).status)
    (means : Means checks root better leaf outcome) :
    ∃ result, Means checks root probe leaf result ∧ result.status ≤ outcome.status := by
  rcases isLeaf.url_or_unknown with ⟨check, found⟩ | ⟨reason, found⟩
  · rw [means.unique (.url found)]
    exact ⟨_, .url found, improves _⟩
  · rw [means.unique (.unknown found)]
    exact ⟨_, .unknown found, le_rfl⟩

/-- No check fares worse with better answers. -/
theorem Means.status_le (filled : ∀ id : CheckId, checks[id.index]? ≠ some (.composite []))
    {better : Probe} (improves : ∀ target, (probe target).status ≤ (better target).status)
    {before after : Outcome} (means : Means checks root probe id before)
    (betterMeans : Means checks root better id after) : before.status ≤ after.status := by
  obtain ⟨⟨leaf, result, isLeaf, leafMeans, same⟩, -⟩ := betterMeans.isLeast_status filled
  obtain ⟨old, oldMeans, le⟩ := isLeaf.exists_means_le improves leafMeans
  calc before.status
    _ ≤ old.status := (means.isLeast_status filled).2 ⟨leaf, old, isLeaf, oldMeans, rfl⟩
    _ ≤ result.status := le
    _ = after.status := same

end Leaves

/-- The kind of the outcome of a check. -/
def Evaluation.status (evaluation : Evaluation) (id : CheckId) : Status :=
  (evaluation.outcome id).status

section Resolved

variable {files : Path.Map (List Marker)} {root : Path} {probe : Probe} {id leaf : CheckId}

/-- No composite check of a project is without parts. -/
theorem composite_ne_nil (files : Path.Map (List Marker)) (id : CheckId) :
    (resolve files).checks[id.index]? ≠ some (.composite []) := by
  intro found
  obtain ⟨occurrence, bound, -, answers⟩ := exists_answers_of_composite found
  exact Marker.ids_ne_nil bound.composite (List.forall₂_nil_right_iff.mp answers)

theorem Means.status_eq {outcome : Outcome}
    (means : Means (resolve files).checks root probe id outcome) :
    (Evaluation.ofResolution (resolve files) root probe).status id = outcome.status := by
  have found := (getElem?_outcomes_iff files root probe).mpr means
  unfold Evaluation.status Evaluation.outcome
  rw [found, Option.getD_some]

theorem status_of_url (root : Path) (probe : Probe) {check : UrlCheck}
    (found : (resolve files).checks[id.index]? = some (.url check)) :
    (Evaluation.ofResolution (resolve files) root probe).status id =
      (probe (check.target root)).status :=
  (Means.url found).status_eq

theorem status_of_unknown (root : Path) (probe : Probe) {reason : UnknownReason}
    (found : (resolve files).checks[id.index]? = some (.unknown reason)) :
    (Evaluation.ofResolution (resolve files) root probe).status id = .indeterminate :=
  (Means.unknown found).status_eq

theorem exists_means (root : Path) (probe : Probe)
    (bounded : id.index < (resolve files).checks.length) :
    ∃ outcome, Means (resolve files).checks root probe id outcome := by
  obtain ⟨sound, remembered⟩ := sound_run_resolve files root probe
  obtain ⟨outcome, known⟩ := Option.isSome_iff_exists.mp (remembered id bounded)
  exact ⟨outcome, sound.known id outcome known⟩

theorem Leaf.bounded {checks : List Check} (isLeaf : Leaf checks id leaf) :
    leaf.index < checks.length := by
  obtain ⟨check, found, -⟩ := isLeaf.simple
  exact (List.getElem?_eq_some_iff.mp found).1

/-- The status of a check is the least status of its leaves. -/
theorem isLeast_status (root : Path) (probe : Probe)
    (bounded : id.index < (resolve files).checks.length) :
    IsLeast {status | ∃ leaf, Leaf (resolve files).checks id leaf ∧
        (Evaluation.ofResolution (resolve files) root probe).status leaf = status}
      ((Evaluation.ofResolution (resolve files) root probe).status id) := by
  obtain ⟨outcome, means⟩ := exists_means root probe bounded
  obtain ⟨⟨leaf, result, isLeaf, leafMeans, same⟩, least⟩ :=
    means.isLeast_status (composite_ne_nil files)
  rw [means.status_eq]
  refine ⟨⟨leaf, isLeaf, leafMeans.status_eq.trans same⟩, ?_⟩
  rintro _ ⟨other, isOther, rfl⟩
  obtain ⟨otherResult, otherMeans⟩ := exists_means root probe isOther.bounded
  rw [otherMeans.status_eq]
  exact least ⟨other, otherResult, isOther, otherMeans, rfl⟩

/-- A check fails when some link that it leads to fails. -/
theorem status_eq_failed_iff (bounded : id.index < (resolve files).checks.length) :
    (Evaluation.ofResolution (resolve files) root probe).status id = .failed ↔
      ∃ leaf check, Leaf (resolve files).checks id leaf ∧
        (resolve files).checks[leaf.index]? = some (.url check) ∧
          (probe (check.target root)).status = .failed := by
  obtain ⟨⟨worst, isWorst, same⟩, least⟩ := isLeast_status root probe bounded
  constructor
  · intro failed
    rcases isWorst.url_or_unknown with ⟨check, found⟩ | ⟨reason, found⟩
    · have answered := status_of_url root probe found
      exact ⟨worst, check, isWorst, found, answered.symm.trans (same.trans failed)⟩
    · have undecided := status_of_unknown root probe found
      cases undecided.symm.trans (same.trans failed)
  · rintro ⟨leaf, check, isLeaf, found, failed⟩
    have answered := status_of_url root probe found
    exact le_antisymm (least ⟨leaf, isLeaf, answered.trans failed⟩) (Status.failed_le _)

/-- A check passes when all it leads to are links that pass. -/
theorem status_eq_passed_iff (bounded : id.index < (resolve files).checks.length) :
    (Evaluation.ofResolution (resolve files) root probe).status id = .passed ↔
      ∀ leaf, Leaf (resolve files).checks id leaf →
        ∃ check, (resolve files).checks[leaf.index]? = some (.url check) ∧
          (probe (check.target root)).status = .passed := by
  obtain ⟨⟨worst, isWorst, same⟩, least⟩ := isLeast_status root probe bounded
  constructor
  · intro passed leaf isLeaf
    have above := least ⟨leaf, isLeaf, rfl⟩
    rw [passed] at above
    have leafPassed := le_antisymm (Status.le_passed _) above
    rcases isLeaf.url_or_unknown with ⟨check, found⟩ | ⟨reason, found⟩
    · have answered := status_of_url root probe found
      exact ⟨check, found, answered.symm.trans leafPassed⟩
    · have undecided := status_of_unknown root probe found
      cases undecided.symm.trans leafPassed
  · intro allPass
    obtain ⟨check, found, passed⟩ := allPass worst isWorst
    have answered := status_of_url root probe found
    exact same.symm.trans (answered.trans passed)

end Resolved

/-- **The worst leaf decides.** The status of a composite check is the least status of the links and
unknown checks that references lead to from it, and there is one. So it fails when one of those
links fails, and passes when it leads to nothing but links that pass. With better answers of the
probe no occurrence fares worse. -/
theorem worst_leaf_decides (files : Path.Map (List Marker)) (root : Path) (probe : Probe) :
    (∀ id parts, (resolve files).checks[id.index]? = some (.composite parts) →
      IsLeast {status | ∃ leaf, Leaf (resolve files).checks id leaf ∧
          (Evaluation.ofResolution (resolve files) root probe).status leaf = status}
        ((Evaluation.ofResolution (resolve files) root probe).status id) ∧
      ((Evaluation.ofResolution (resolve files) root probe).status id = .failed ↔
        ∃ leaf check, Leaf (resolve files).checks id leaf ∧
          (resolve files).checks[leaf.index]? = some (.url check) ∧
            (probe (check.target root)).status = .failed) ∧
      ((Evaluation.ofResolution (resolve files) root probe).status id = .passed ↔
        ∀ leaf, Leaf (resolve files).checks id leaf →
          ∃ check, (resolve files).checks[leaf.index]? = some (.url check) ∧
            (probe (check.target root)).status = .passed)) ∧
    ∀ better : Probe, (∀ target, (probe target).status ≤ (better target).status) →
      List.Forall₂ (fun before after => before.status ≤ after.status)
        ((Evaluation.ofResolution (resolve files) root probe).rows (resolve files))
        ((Evaluation.ofResolution (resolve files) root better).rows (resolve files)) := by
  constructor
  · intro id parts found
    have bounded := (List.getElem?_eq_some_iff.mp found).1
    exact ⟨isLeast_status root probe bounded, status_eq_failed_iff bounded,
      status_eq_passed_iff bounded⟩
  · intro better improves
    unfold Evaluation.rows
    rw [List.forall₂_map_left_iff, List.forall₂_map_right_iff, List.forall₂_same]
    rintro ⟨occurrence, id⟩ row
    have bounded := bounded_of_mem_bound row
    obtain ⟨before, means⟩ := exists_means root probe bounded
    obtain ⟨after, betterMeans⟩ := exists_means root better bounded
    have le := means.status_le (composite_ne_nil files) improves betterMeans
    rw [← means.status_eq, ← betterMeans.status_eq] at le
    exact le

end DocMarkers
