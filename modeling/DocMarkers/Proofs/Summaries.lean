import DocMarkers.Proofs.Bindings
import DocMarkers.Proofs.WorstLeaf

/-! # What a summary says of a project

A summary counts the outcomes of occurrences, and every link of a project is that of an occurrence.
So no outcome is counted as failed exactly when no link fails (`failed_eq_zero_iff`), and all are
counted as passed exactly when every link leads somewhere, every test exists, every id that is
referred to is declared, and no references run in a circle (`all_passed_iff`).
-/

namespace DocMarkers

open Relation

/-- All that a project says can be decided, and holds. -/
structure Holds (files : Path.Map (List Marker)) (root : Path) (probe : Probe) : Prop where
  /-- Every link leads somewhere. -/
  links : ∀ check, .url check ∈ (resolve files).checks →
    (probe (check.target root)).status = .passed
  /-- Every marker that is checked by itself has the test for links. -/
  tests : ∀ occurrence ∈ Occurrence.ofFiles files, occurrence.marker.kind = .primitive →
    occurrence.marker.testId = Marker.defaultTestId
  /-- Every id that is referred to is declared. -/
  declared : ∀ occurrence ∈ Occurrence.ofFiles files, ∀ name ∈ occurrence.marker.ids,
    ∃ other ∈ Occurrence.ofFiles files, other.marker.id = some name
  /-- No references run in a circle. -/
  acyclic : ∀ occurrence ∈ Occurrence.ofFiles files,
    ¬ TransGen (Occurrence.RefersTo files) occurrence occurrence

/-- Only a composite marker refers to an id. -/
theorem Marker.kind_eq_composite_of_mem_ids {marker : Marker} {name : String}
    (named : name ∈ marker.ids) : marker.kind = .composite := by
  unfold ids at named
  unfold kind
  cases claim : marker.claim with
  | primitive argument =>
      rw [claim] at named
      cases named
  | composite argument ids nonempty => rfl

section Counts

variable {files : Path.Map (List Marker)} {root : Path} {probe : Probe} {id : CheckId}

/-- Every link is that of an occurrence. -/
theorem exists_bound_of_url {check : UrlCheck} (listed : .url check ∈ (resolve files).checks) :
    ∃ occurrence id, (occurrence, id) ∈ (resolve files).bound ∧
      (resolve files).checks[id.index]? = some (.url check) := by
  obtain ⟨place, found⟩ := List.mem_iff_getElem?.mp listed
  have atId : (resolve files).checks[(CheckId.mk place).index]? = some (.url check) := found
  rcases exists_bound_or_missing atId with ⟨occurrence, row⟩ | ⟨name, missing, -⟩
  · exact ⟨occurrence, ⟨place⟩, row, atId⟩
  · cases missing

/-- A summary counts no outcome of a kind when no row has one. -/
theorem countP_rows_eq_zero_iff {evaluation : Evaluation} {resolution : Resolution}
    {counts : Outcome → Bool} :
    (evaluation.rows resolution).countP counts = 0 ↔
      ∀ row ∈ resolution.bound, counts (evaluation.outcome row.2) = false := by
  unfold Evaluation.rows
  rw [List.countP_eq_zero, List.forall_mem_map]
  simp only [Bool.not_eq_true]

theorem failed_summary_eq_zero_iff {evaluation : Evaluation} {resolution : Resolution} :
    (evaluation.summary resolution).failed = 0 ↔
      ∀ row ∈ resolution.bound, evaluation.status row.2 ≠ .failed := by
  refine countP_rows_eq_zero_iff.trans (forall₂_congr fun row _ => ?_)
  rw [← Bool.not_eq_true, Outcome.isFailed_iff]
  rfl

theorem indeterminate_summary_eq_zero_iff {evaluation : Evaluation} {resolution : Resolution} :
    (evaluation.summary resolution).indeterminate = 0 ↔
      ∀ row ∈ resolution.bound, evaluation.status row.2 ≠ .indeterminate := by
  refine countP_rows_eq_zero_iff.trans (forall₂_congr fun row _ => ?_)
  rw [← Bool.not_eq_true, Outcome.isIndeterminate_iff]
  rfl

/-- A summary counts only passes when every row has passed. -/
theorem all_passed_summary_iff {evaluation : Evaluation} {resolution : Resolution} :
    (evaluation.summary resolution).failed + (evaluation.summary resolution).indeterminate = 0 ↔
      ∀ row ∈ resolution.bound, evaluation.status row.2 = .passed := by
  rw [Nat.add_eq_zero_iff, failed_summary_eq_zero_iff, indeterminate_summary_eq_zero_iff,
    ← forall₂_and]
  refine forall₂_congr fun row _ => ?_
  cases evaluation.status row.2 <;> simp

/-- No outcome is counted as failed when no link fails. -/
theorem failed_eq_zero_iff :
    ((Evaluation.ofResolution (resolve files) root probe).summary (resolve files)).failed = 0 ↔
      ∀ check, .url check ∈ (resolve files).checks →
        (probe (check.target root)).status ≠ .failed := by
  rw [failed_summary_eq_zero_iff]
  constructor
  · intro unfailed check listed failed
    obtain ⟨occurrence, id, row, found⟩ := exists_bound_of_url listed
    have answered := status_of_url root probe found
    exact unfailed (occurrence, id) row (answered.trans failed)
  · rintro unfailed ⟨occurrence, id⟩ row failed
    obtain ⟨leaf, check, -, found, linkFailed⟩ :=
      (status_eq_failed_iff (bounded_of_mem_bound row)).mp failed
    exact unfailed check (List.mem_of_getElem? found) linkFailed

/-- An unknown check of a project that holds would be that of no marker. -/
theorem Holds.not_unknown (holds : Holds files root probe) (id : CheckId) (reason : UnknownReason) :
    (resolve files).checks[id.index]? ≠ some (.unknown reason) := by
  intro found
  rcases exists_bound_or_missing found with
    ⟨occurrence, row⟩ | ⟨name, -, ⟨referrer, member, named⟩, lost⟩
  · have member := mem_ofFiles_of_bound row
    obtain ⟨check, bound, binding⟩ := exists_binding row
    obtain rfl : check = .unknown reason := Option.some.inj (bound.symm.trans found)
    cases binding with
    | unrecognized primitive test => exact test (holds.tests occurrence member primitive)
    | circle composite leads => exact holds.acyclic occurrence member leads
  · obtain ⟨other, otherMember, declares⟩ := holds.declared referrer member name named
    exact lost other otherMember declares

/-- An occurrence that passes is on no circle. -/
theorem not_leads_of_passed {occurrence : Occurrence}
    (row : (occurrence, id) ∈ (resolve files).bound)
    (passed : (Evaluation.ofResolution (resolve files) root probe).status id = .passed) :
    ¬ TransGen (Occurrence.RefersTo files) occurrence occurrence := by
  intro leads
  obtain ⟨next, refers, -⟩ := TransGen.head'_iff.mp leads
  have bound : BoundComposite files occurrence id := ⟨row, refers.2.1⟩
  have undecided := status_of_unknown root probe (bound.cyclic_iff.mpr leads)
  cases undecided.symm.trans passed

/-- The ids that an occurrence that passes refers to are declared. -/
theorem exists_declared_of_passed {occurrence : Occurrence} {name : String}
    (row : (occurrence, id) ∈ (resolve files).bound)
    (passed : (Evaluation.ofResolution (resolve files) root probe).status id = .passed)
    (named : name ∈ occurrence.marker.ids) :
    ∃ other ∈ Occurrence.ofFiles files, other.marker.id = some name := by
  by_contra undeclared
  have bound : BoundComposite files occurrence id :=
    ⟨row, Marker.kind_eq_composite_of_mem_ids named⟩
  obtain ⟨parts, -, found, answers⟩ := bound.stays (not_leads_of_passed row passed)
  obtain ⟨part, inside, answer⟩ := exists_mem_of_forall₂ answers.flip named
  have missing : (resolve files).checks[part.index]? = some (.unknown (.missingReference name)) :=
    answer.missing.mp fun other member declares => undeclared ⟨other, member, declares⟩
  have isLeaf : Leaf (resolve files).checks id part :=
    (leaf_iff_of_composite found).mpr ⟨part, inside, .refl, _, missing, rfl⟩
  obtain ⟨check, link, -⟩ :=
    (status_eq_passed_iff (bounded_of_mem_bound row)).mp passed part isLeaf
  cases missing.symm.trans link

/-- All outcomes are counted as passed when the project holds. -/
theorem all_passed_iff :
    (∀ row ∈ (resolve files).bound,
      (Evaluation.ofResolution (resolve files) root probe).status row.2 = .passed) ↔
      Holds files root probe := by
  constructor
  · intro passed
    constructor
    · intro check listed
      obtain ⟨occurrence, id, row, found⟩ := exists_bound_of_url listed
      have answered := status_of_url root probe found
      exact answered.symm.trans (passed (occurrence, id) row)
    · intro occurrence member primitive
      by_contra test
      obtain ⟨id, row⟩ := exists_bound member
      have undecided := status_of_unknown root probe (checks_of_unrecognized row primitive test)
      cases undecided.symm.trans (passed (occurrence, id) row)
    · intro occurrence member name named
      obtain ⟨id, row⟩ := exists_bound member
      exact exists_declared_of_passed row (passed (occurrence, id) row) named
    · intro occurrence member leads
      obtain ⟨id, row⟩ := exists_bound member
      exact not_leads_of_passed row (passed (occurrence, id) row) leads
  · rintro holds ⟨occurrence, id⟩ row
    refine (status_eq_passed_iff (bounded_of_mem_bound row)).mpr ?_
    intro leaf isLeaf
    rcases isLeaf.url_or_unknown with ⟨check, found⟩ | ⟨reason, found⟩
    · exact ⟨check, found, holds.links check (List.mem_of_getElem? found)⟩
    · exact absurd found (holds.not_unknown leaf reason)

end Counts

end DocMarkers
