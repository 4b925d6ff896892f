import DocMarkers.Proofs.CircleBreaking
import DocMarkers.Proofs.PathTables

/-! # The check of an occurrence

Every occurrence of a project is bound to one check, and a look-up of the occurrence finds it
(`checkId?_of_bound`). The marker decides what the check is (`Binding`, `exists_binding`).

The other way round, every check is bound to an occurrence, or says that an id is missing which some
occurrence refers to (`exists_bound_or_missing`).
-/

namespace DocMarkers

open Relation

theorem Marker.kind_eq_primitive_iff {marker : Marker} :
    marker.kind = .primitive ↔ ∃ argument, marker.claim = .primitive argument := by
  unfold Marker.kind
  cases marker.claim with
  | primitive argument => simp
  | composite argument ids nonempty => simp

namespace Occurrence

variable {files : Path.Map (List Marker)} {left right : Occurrence}

theorem Same.symm (same : left.Same right) : right.Same left :=
  ⟨Eq.symm same.1, Eq.symm same.2⟩

/-- Of two occurrences that are the same, neither comes before the other. -/
theorem Precedes.not_same (before : left.Precedes files right) : ¬ left.Same right := by
  rintro ⟨file, raw⟩
  rcases before with before | ⟨-, markers, -, before⟩
  · exact Path.not_same_of_lt before file
  · have position : Marker.position markers left.marker = Marker.position markers right.marker := by
      unfold Marker.position
      rw [raw]
    rw [position] at before
    exact Nat.lt_irrefl _ before

/-- A project holds an occurrence in one spelling only. -/
theorem eq_of_same (leftMember : left ∈ ofFiles files) (rightMember : right ∈ ofFiles files)
    (same : left.Same right) : left = right := by
  have forward : (ofFiles files).Pairwise fun left right => left.Same right → left = right :=
    (pairwise_precedes files).imp fun before same => absurd same before.not_same
  have backward : (ofFiles files).Pairwise fun left right => right.Same left → right = left :=
    (pairwise_precedes files).imp fun before same => absurd same.symm before.not_same
  exact forward.forall_of_forall_of_flip (fun _ _ _ => rfl) backward leftMember rightMember same

end Occurrence

section Rows

variable {files : Path.Map (List Marker)} {occurrence : Occurrence} {id : CheckId}

theorem mem_ofFiles_of_bound (row : (occurrence, id) ∈ (resolve files).bound) :
    occurrence ∈ Occurrence.ofFiles files := by
  obtain ⟨place, rfl, -⟩ := Resolution.mem_bound_iff.mp row
  exact List.get_mem _ place

theorem exists_bound (member : occurrence ∈ Occurrence.ofFiles files) :
    ∃ id, (occurrence, id) ∈ (resolve files).bound := by
  obtain ⟨place, rfl⟩ := List.mem_iff_get.mp member
  exact ⟨_, Resolution.mem_bound_iff.mpr ⟨place, rfl, rfl⟩⟩

/-- Rows of one occurrence, in whatever spelling, are one row. -/
theorem row_unique {row other : Occurrence × CheckId} (member : row ∈ (resolve files).bound)
    (otherMember : other ∈ (resolve files).bound) (same : row.1.Same other.1) : row = other := by
  obtain ⟨occurrence, id⟩ := row
  obtain ⟨second, otherId⟩ := other
  obtain rfl := Occurrence.eq_of_same (mem_ofFiles_of_bound member)
    (mem_ofFiles_of_bound otherMember) same
  obtain ⟨place, found, rfl⟩ := Resolution.mem_bound_iff.mp member
  obtain ⟨otherPlace, otherFound, rfl⟩ := Resolution.mem_bound_iff.mp otherMember
  rw [Occurrence.get_injective (found.trans otherFound.symm)]

/-- A search by a test that one occurrence alone passes finds the row of that occurrence. -/
theorem find?_bound {test : Occurrence × CheckId → Bool}
    (row : (occurrence, id) ∈ (resolve files).bound) (passes : test (occurrence, id) = true)
    (alone : ∀ other ∈ (resolve files).bound, test other = true → other.1.Same occurrence) :
    (resolve files).bound.find? test = some (occurrence, id) := by
  cases search : (resolve files).bound.find? test with
  | none => exact absurd passes (List.find?_eq_none.mp search _ row)
  | some other =>
      have member := List.mem_of_find?_eq_some search
      have same := alone other member (List.find?_some search)
      rw [row_unique member row same]

theorem checkId?_of_bound (row : (occurrence, id) ∈ (resolve files).bound) :
    (resolve files).checkId? occurrence = some id := by
  unfold Resolution.checkId?
  rw [find?_bound row (decide_eq_true ⟨rfl, rfl⟩) fun _ _ passes => of_decide_eq_true passes]
  rfl

end Rows

/-- What the marker of an occurrence makes of its check. -/
inductive Binding (files : Path.Map (List Marker)) (occurrence : Occurrence) : Check → Prop where
  /-- A primitive marker with the test for links has its argument looked up. -/
  | link {argument : String} (claim : occurrence.marker.claim = .primitive argument)
      (test : occurrence.marker.testId = Marker.defaultTestId) :
      Binding files occurrence (.url (.ofArgument occurrence.file argument))
  /-- A primitive marker with another test has an unknown check. -/
  | unrecognized (primitive : occurrence.marker.kind = .primitive)
      (test : occurrence.marker.testId ≠ Marker.defaultTestId) :
      Binding files occurrence (.unknown (.unrecognizedTest occurrence.marker.testId))
  /-- So has a composite marker that leads to itself. -/
  | circle (composite : occurrence.marker.kind = .composite)
      (leads : TransGen (Occurrence.RefersTo files) occurrence occurrence) :
      Binding files occurrence (.unknown .cyclicReference)
  /-- Every other composite marker combines what its ids mean. -/
  | composite {parts : List CheckId} (composite : occurrence.marker.kind = .composite)
      (outside : ¬ TransGen (Occurrence.RefersTo files) occurrence occurrence)
      (answers : List.Forall₂ (Answers files) occurrence.marker.ids parts) :
      Binding files occurrence (.composite parts)

section Checks

variable {files : Path.Map (List Marker)} {occurrence : Occurrence} {id : CheckId}

/-- The wired check of a primitive occurrence. -/
theorem getElem?_wired_of_primitive {place : Fin (Occurrence.ofFiles files).length}
    {argument : String}
    (claim : ((Occurrence.ofFiles files).get place).marker.claim = .primitive argument) :
    (wiredChecks files)[(Slot.idAt (Occurrence.ofFiles files) place).index]? =
      some (if ((Occurrence.ofFiles files).get place).marker.testId = Marker.defaultTestId then
        .url (.ofArgument ((Occurrence.ofFiles files).get place).file argument)
      else .unknown (.unrecognizedTest ((Occurrence.ofFiles files).get place).marker.testId)) := by
  have kind := Marker.kind_eq_primitive_iff.mpr ⟨argument, claim⟩
  unfold Slot.idAt
  rw [Slot.getElem?_wired (Slot.ofPlace_mem_all place)]
  unfold Slot.ofPlace
  simp only [kind]
  split
  · simp only [Slot.check, claim]
  · rfl

theorem checks_of_link {argument : String} (row : (occurrence, id) ∈ (resolve files).bound)
    (claim : occurrence.marker.claim = .primitive argument)
    (test : occurrence.marker.testId = Marker.defaultTestId) :
    (resolve files).checks[id.index]? = some (.url (.ofArgument occurrence.file argument)) := by
  obtain ⟨place, rfl, rfl⟩ := Resolution.mem_bound_iff.mp row
  have wiredAt := getElem?_wired_of_primitive claim
  rw [if_pos test] at wiredAt
  exact (Resolution.getElem?_checks_eq_some_iff rfl (by simp)).mpr wiredAt

theorem checks_of_unrecognized (row : (occurrence, id) ∈ (resolve files).bound)
    (primitive : occurrence.marker.kind = .primitive)
    (test : occurrence.marker.testId ≠ Marker.defaultTestId) :
    (resolve files).checks[id.index]? =
      some (.unknown (.unrecognizedTest occurrence.marker.testId)) := by
  obtain ⟨argument, claim⟩ := Marker.kind_eq_primitive_iff.mp primitive
  obtain ⟨place, rfl, rfl⟩ := Resolution.mem_bound_iff.mp row
  have wiredAt := getElem?_wired_of_primitive claim
  rw [if_neg test] at wiredAt
  exact (Resolution.getElem?_checks_eq_some_iff rfl (by simp)).mpr wiredAt

/-- Every occurrence has the check that its marker asks for. -/
theorem exists_binding (row : (occurrence, id) ∈ (resolve files).bound) :
    ∃ check, (resolve files).checks[id.index]? = some check ∧ Binding files occurrence check := by
  cases kind : occurrence.marker.kind with
  | primitive =>
      obtain ⟨argument, claim⟩ := Marker.kind_eq_primitive_iff.mp kind
      by_cases test : occurrence.marker.testId = Marker.defaultTestId
      · exact ⟨_, checks_of_link row claim test, .link claim test⟩
      · exact ⟨_, checks_of_unrecognized row kind test, .unrecognized kind test⟩
  | composite =>
      have bound : BoundComposite files occurrence id := ⟨row, kind⟩
      by_cases leads : TransGen (Occurrence.RefersTo files) occurrence occurrence
      · exact ⟨_, bound.cyclic_iff.mpr leads, .circle kind leads⟩
      · obtain ⟨parts, -, found, answers⟩ := bound.stays leads
        exact ⟨_, found, .composite kind leads answers⟩

/-- Every check is that of an occurrence, or says that an id is missing. -/
theorem exists_bound_or_missing {check : Check}
    (found : (resolve files).checks[id.index]? = some check) :
    (∃ occurrence, (occurrence, id) ∈ (resolve files).bound) ∨
      ∃ name, check = .unknown (.missingReference name) ∧
        (∃ occurrence ∈ Occurrence.ofFiles files, name ∈ occurrence.marker.ids) ∧
        ∀ other ∈ Occurrence.ofFiles files, other.marker.id ≠ some name := by
  have atPlace (place : Fin (Occurrence.ofFiles files).length) :
      ((Occurrence.ofFiles files).get place,
        Slot.checkId (Slot.all (Occurrence.ofFiles files))
          (Slot.ofPlace (Occurrence.ofFiles files) place)) ∈ (resolve files).bound :=
    Resolution.mem_bound_iff.mpr ⟨place, rfl, rfl⟩
  have bounded : id.index < (wiredChecks files).length := by
    have inside := (List.getElem?_eq_some_iff.mp found).1
    unfold resolve at inside
    rwa [Resolution.checks_ofOccurrences, breakCycles, List.length_map,
      List.length_zipIdx] at inside
  obtain ⟨slot, listed, rfl, -⟩ :=
    Slot.exists_slot_of_getElem?_wired (List.getElem?_eq_getElem bounded)
  rcases List.mem_append.mp (mem_distinct.mp listed) with own | referred
  · obtain ⟨place, -, rfl⟩ := List.mem_map.mp own
    exact .inl ⟨_, atPlace place⟩
  · obtain ⟨occurrence, member, named⟩ := List.mem_flatMap.mp referred
    obtain ⟨name, inIds, rfl⟩ := List.mem_map.mp named
    cases declared : Occurrence.declarer? (Occurrence.ofFiles files) name with
    | some place =>
        rw [Slot.ofReference_of_declared declared]
        exact .inl ⟨_, atPlace place⟩
    | none =>
        have undeclared := Occurrence.declarer?_eq_none_iff.mp declared
        have missing := (Slot.answers_ofReference listed).missing.mp undeclared
        exact .inr ⟨name, Option.some.inj (found.symm.trans missing), ⟨occurrence, member, inIds⟩,
          undeclared⟩

end Checks

end DocMarkers
