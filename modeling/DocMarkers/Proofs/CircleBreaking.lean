import DocMarkers.Proofs.Wiring

/-! # Circles of composite occurrences

Composite occurrences refer to each other through the ids of their markers (`Occurrence.RefersTo`).
The references between wired checks follow those between occurrences in both directions
(`Occurrence.RefersTo.simulated`, `exists_refersTo_of_combines`), so an occurrence leads back to
itself exactly when its check does, and the classes of checks that resolution lists are the classes
of occurrences that lead to each other (`circles_taken_out`).
-/

namespace DocMarkers

open Relation

/-- A composite occurrence refers to another one: an id of its marker means that one. -/
def Occurrence.RefersTo (files : Path.Map (List Marker)) (referrer target : Occurrence) : Prop :=
  referrer ∈ ofFiles files ∧ referrer.marker.kind = .composite ∧
    target.marker.kind = .composite ∧
      ∃ name ∈ referrer.marker.ids, IsFirstDeclarer files name target

/-- `circle` lists, in ascending order, the checks of the occurrences that lead to `occurrence` and
that it leads to. -/
structure IsClassOf (files : Path.Map (List Marker)) (occurrence : Occurrence)
    (circle : List CheckId) : Prop where
  ascending : circle.Pairwise fun left right => left.index < right.index
  mem_iff : ∀ id, id ∈ circle ↔
    ∃ other, (other, id) ∈ (resolve files).bound ∧
      TransGen (Occurrence.RefersTo files) occurrence other ∧
        TransGen (Occurrence.RefersTo files) other occurrence

/-- A composite occurrence with the id of its check. -/
structure BoundComposite (files : Path.Map (List Marker)) (occurrence : Occurrence)
    (id : CheckId) : Prop where
  bound : (occurrence, id) ∈ (resolve files).bound
  composite : occurrence.marker.kind = .composite

namespace Slot

variable {occurrences : List Occurrence}

theorem eq_of_ofPlace_eq_own {place other : Fin occurrences.length}
    (same : ofPlace occurrences place = own other) : place = other := by
  unfold ofPlace at same
  cases kind : (occurrences.get place).marker.kind with
  | composite =>
      simp only [kind] at same
      exact Slot.own.inj same
  | primitive =>
      simp only [kind] at same
      split at same
      · exact Slot.own.inj same
      · cases same

/-- What refers to an occurrence's own slot refers to that occurrence. -/
theorem declarer?_of_ofReference_eq_own {name : String} {place : Fin occurrences.length}
    (same : ofReference occurrences name = own place) :
    Occurrence.declarer? occurrences name = some place := by
  cases found : Occurrence.declarer? occurrences name with
  | none =>
      rw [ofReference_eq_missing_iff.mpr found] at same
      cases same
  | some other =>
      rw [ofReference_of_declared found] at same
      rw [eq_of_ofPlace_eq_own same]

end Slot

section Simulation

variable {files : Path.Map (List Marker)} {occurrence : Occurrence} {id : CheckId}

/-- The checks of a project as single references decide them. -/
abbrev wiredChecks (files : Path.Map (List Marker)) : List Check :=
  Slot.wired (Occurrence.ofFiles files)

theorem BoundComposite.exists_place (bound : BoundComposite files occurrence id) :
    ∃ place, (Occurrence.ofFiles files).get place = occurrence ∧
      Slot.ofPlace (Occurrence.ofFiles files) place = .own place ∧
        Slot.idAt (Occurrence.ofFiles files) place = id := by
  obtain ⟨place, rfl, rfl⟩ := Resolution.mem_bound_iff.mp bound.bound
  exact ⟨place, rfl, Slot.ofPlace_of_composite bound.composite, rfl⟩

theorem boundComposite_idAt {place : Fin (Occurrence.ofFiles files).length}
    (composite : ((Occurrence.ofFiles files).get place).marker.kind = .composite) :
    BoundComposite files ((Occurrence.ofFiles files).get place)
      (Slot.idAt (Occurrence.ofFiles files) place) :=
  ⟨Resolution.mem_bound_iff.mpr ⟨place, rfl, rfl⟩, composite⟩

/-- The check of a composite occurrence refers to what the ids of its marker mean. -/
theorem BoundComposite.combines_iff (bound : BoundComposite files occurrence id) {part : CheckId} :
    Combines (wiredChecks files) id part ↔
      ∃ name ∈ occurrence.marker.ids,
        Slot.checkId (Slot.all (Occurrence.ofFiles files))
          (Slot.ofReference (Occurrence.ofFiles files) name) = part := by
  obtain ⟨place, rfl, own, rfl⟩ := bound.exists_place
  have wiredAt := Slot.getElem?_wired (Slot.ofPlace_mem_all place)
  rw [Slot.check_eq_composite_iff.mpr ⟨place, own, bound.composite, rfl⟩] at wiredAt
  constructor
  · rintro ⟨parts, found, member⟩
    obtain rfl := parts_unique wiredAt found
    exact List.mem_map.mp member
  · intro named
    exact ⟨_, wiredAt, List.mem_map.mpr named⟩

/-- Every composite check belongs to a composite occurrence. -/
theorem exists_boundComposite (composite : IsComposite (wiredChecks files) id) :
    ∃ occurrence, BoundComposite files occurrence id := by
  obtain ⟨parts, found⟩ := composite
  obtain ⟨slot, -, rfl, isComposite⟩ := Slot.exists_slot_of_getElem?_wired found
  obtain ⟨place, rfl, kind, -⟩ := Slot.check_eq_composite_iff.mp isComposite.symm
  rw [← Slot.ofPlace_of_composite kind]
  exact ⟨_, boundComposite_idAt kind⟩

theorem BoundComposite.occurrence_unique {other : Occurrence}
    (left : BoundComposite files occurrence id) (right : BoundComposite files other id) :
    occurrence = other := by
  obtain ⟨place, rfl, own, rfl⟩ := left.exists_place
  obtain ⟨otherPlace, rfl, otherOwn, same⟩ := right.exists_place
  have slots := Slot.checkId_injective (Slot.ofPlace_mem_all otherPlace) same
  rw [own, otherOwn] at slots
  rw [Slot.own.inj slots]

theorem BoundComposite.id_unique {other : CheckId} (left : BoundComposite files occurrence id)
    (right : BoundComposite files occurrence other) : id = other := by
  obtain ⟨place, same, -, rfl⟩ := left.exists_place
  obtain ⟨otherPlace, otherSame, -, rfl⟩ := right.exists_place
  rw [Occurrence.get_injective (same.trans otherSame.symm)]

/-- A reference between occurrences is a reference between their checks. -/
theorem Occurrence.RefersTo.simulated {target : Occurrence}
    (bound : BoundComposite files occurrence id) (refers : occurrence.RefersTo files target) :
    ∃ part, BoundComposite files target part ∧ Combines (wiredChecks files) id part := by
  obtain ⟨-, -, composite, name, named, first⟩ := refers
  obtain ⟨place, found, rfl⟩ := isFirstDeclarer_iff.mp first
  refine ⟨_, boundComposite_idAt composite, bound.combines_iff.mpr ⟨name, named, ?_⟩⟩
  rw [Slot.ofReference_of_declared found]
  rfl

/-- A reference between composite checks is a reference between their occurrences. -/
theorem exists_refersTo_of_combines {part : CheckId} (bound : BoundComposite files occurrence id)
    (combines : Combines (wiredChecks files) id part)
    (composite : IsComposite (wiredChecks files) part) :
    ∃ target, BoundComposite files target part ∧ occurrence.RefersTo files target := by
  obtain ⟨target, targetBound⟩ := exists_boundComposite composite
  obtain ⟨name, named, same⟩ := bound.combines_iff.mp combines
  obtain ⟨place, rfl, own, rfl⟩ := targetBound.exists_place
  have slots := Slot.checkId_injective (Slot.ofPlace_mem_all place) same.symm
  have found := Slot.declarer?_of_ofReference_eq_own (slots.symm.trans own)
  refine ⟨_, targetBound, ?_, bound.composite, targetBound.composite, name, named,
    Occurrence.isFirstDeclarer_iff.mpr ⟨place, found, rfl⟩⟩
  obtain ⟨referrer, rfl, -⟩ := bound.exists_place
  exact List.get_mem _ referrer

theorem exists_combines_of_leads {target : Occurrence} (bound : BoundComposite files occurrence id)
    (leads : TransGen (Occurrence.RefersTo files) occurrence target) :
    ∃ part, BoundComposite files target part ∧ TransGen (Combines (wiredChecks files)) id part := by
  induction leads with
  | single refers =>
      obtain ⟨part, targetBound, combines⟩ := refers.simulated bound
      exact ⟨part, targetBound, .single combines⟩
  | tail _ refers ih =>
      obtain ⟨middle, middleBound, leads⟩ := ih
      obtain ⟨part, targetBound, combines⟩ := refers.simulated middleBound
      exact ⟨part, targetBound, .tail leads combines⟩

theorem exists_leads_of_combines {part : CheckId} (bound : BoundComposite files occurrence id)
    (leads : TransGen (Combines (wiredChecks files)) id part)
    (composite : IsComposite (wiredChecks files) part) :
    ∃ target, BoundComposite files target part ∧
      TransGen (Occurrence.RefersTo files) occurrence target := by
  induction leads with
  | single combines =>
      obtain ⟨target, targetBound, refers⟩ := exists_refersTo_of_combines bound combines composite
      exact ⟨target, targetBound, .single refers⟩
  | tail _ combines ih =>
      obtain ⟨middle, middleBound, leads⟩ := ih combines.isComposite
      obtain ⟨target, targetBound, refers⟩ :=
        exists_refersTo_of_combines middleBound combines composite
      exact ⟨target, targetBound, .tail leads refers⟩

/-- Occurrences lead to each other exactly when their checks do. -/
theorem BoundComposite.leads_iff {target : Occurrence} {part : CheckId}
    (bound : BoundComposite files occurrence id) (targetBound : BoundComposite files target part) :
    TransGen (Combines (wiredChecks files)) id part ↔
      TransGen (Occurrence.RefersTo files) occurrence target := by
  constructor
  · intro leads
    obtain ⟨parts, found, -⟩ := Slot.forall₂_answers targetBound.bound targetBound.composite
    obtain ⟨other, otherBound, refers⟩ := exists_leads_of_combines bound leads ⟨parts, found⟩
    rw [targetBound.occurrence_unique otherBound]
    exact refers
  · intro refers
    obtain ⟨other, otherBound, leads⟩ := exists_combines_of_leads bound refers
    rw [targetBound.id_unique otherBound]
    exact leads

theorem composite_of_leads {target : Occurrence}
    (leads : TransGen (Occurrence.RefersTo files) occurrence target) :
    target.marker.kind = .composite := by
  obtain ⟨_, -, refers⟩ := TransGen.tail'_iff.mp leads
  exact refers.2.2.1

/-- An occurrence is on a circle exactly when its check is. -/
theorem BoundComposite.onCircle_iff (bound : BoundComposite files occurrence id) :
    OnCircle (wiredChecks files) id ↔ TransGen (Occurrence.RefersTo files) occurrence occurrence :=
  bound.leads_iff bound

/-- The class of a check is the class of its occurrence. -/
theorem BoundComposite.isClassOf (bound : BoundComposite files occurrence id) :
    IsClassOf files occurrence (circleOf (wiredChecks files) id.index) where
  ascending := pairwise_circleOf _ _
  mem_iff := by
    intro part
    rw [mem_circleOf_iff]
    constructor
    · rintro ⟨forth, back⟩
      obtain ⟨other, otherBound⟩ := exists_boundComposite (isComposite_of_transGen back)
      exact ⟨other, otherBound.bound, (bound.leads_iff otherBound).mp forth,
        (otherBound.leads_iff bound).mp back⟩
    · rintro ⟨other, row, forth, back⟩
      have otherBound : BoundComposite files other part := ⟨row, composite_of_leads forth⟩
      exact ⟨(bound.leads_iff otherBound).mpr forth, (otherBound.leads_iff bound).mpr back⟩

theorem IsClassOf.unique {left right : List CheckId} (first : IsClassOf files occurrence left)
    (second : IsClassOf files occurrence right) : left = right :=
  eq_of_pairwise_of_mem_iff Nat.lt_asymm first.ascending second.ascending
    fun id => (first.mem_iff id).trans (second.mem_iff id).symm

/-- The check of a composite occurrence is taken out exactly when the occurrence is on a circle. -/
theorem BoundComposite.cyclic_iff (bound : BoundComposite files occurrence id) :
    (resolve files).checks[id.index]? = some (.unknown .cyclicReference) ↔
      TransGen (Occurrence.RefersTo files) occurrence occurrence := by
  rw [← bound.onCircle_iff]
  constructor
  · intro degraded
    by_contra outside
    obtain ⟨parts, found, -⟩ := Slot.forall₂_answers bound.bound bound.composite
    have unchanged := Resolution.getElem?_checks_of_not_onCircle outside
    rw [found] at unchanged
    cases unchanged.symm.trans degraded
  · exact Resolution.getElem?_checks_of_onCircle

/-- The check of a composite occurrence that is on no circle stays as it was wired. -/
theorem BoundComposite.stays (bound : BoundComposite files occurrence id)
    (outside : ¬ TransGen (Occurrence.RefersTo files) occurrence occurrence) :
    ∃ parts, (wiredChecks files)[id.index]? = some (.composite parts) ∧
      (resolve files).checks[id.index]? = some (.composite parts) ∧
        List.Forall₂ (Answers files) occurrence.marker.ids parts := by
  obtain ⟨parts, found, answers⟩ := Slot.forall₂_answers bound.bound bound.composite
  have unchanged :=
    Resolution.getElem?_checks_of_not_onCircle fun circle =>
      outside (bound.onCircle_iff.mp circle)
  exact ⟨parts, found, unchanged.trans found, answers⟩

/-- A composite check that is left belongs to a composite occurrence and answers its ids. -/
theorem exists_answers_of_composite {parts : List CheckId}
    (found : (resolve files).checks[id.index]? = some (.composite parts)) :
    ∃ occurrence, BoundComposite files occurrence id ∧
      (wiredChecks files)[id.index]? = some (.composite parts) ∧
        List.Forall₂ (Answers files) occurrence.marker.ids parts := by
  have before : (wiredChecks files)[id.index]? = some (.composite parts) :=
    (composite_of_breakCycles found).1
  obtain ⟨occurrence, bound⟩ := exists_boundComposite ⟨parts, before⟩
  obtain ⟨others, wiredAt, answers⟩ := Slot.forall₂_answers bound.bound bound.composite
  obtain rfl := parts_unique before wiredAt
  exact ⟨occurrence, bound, before, answers⟩

/-- The listed classes are the classes of the occurrences on circles. -/
theorem mem_cycles_resolve_iff {circle : List CheckId} :
    circle ∈ (resolve files).cycles ↔
      ∃ occurrence, TransGen (Occurrence.RefersTo files) occurrence occurrence ∧
        IsClassOf files occurrence circle := by
  unfold resolve
  rw [Resolution.cycles_ofOccurrences, mem_cycles_iff]
  constructor
  · rintro ⟨place, onCircle, rfl⟩
    obtain ⟨occurrence, bound⟩ := exists_boundComposite onCircle.isComposite
    exact ⟨occurrence, bound.onCircle_iff.mp onCircle, bound.isClassOf⟩
  · rintro ⟨occurrence, onCircle, isClass⟩
    obtain ⟨_, refers, -⟩ := TransGen.head'_iff.mp onCircle
    obtain ⟨place, rfl⟩ := List.mem_iff_get.mp refers.1
    have bound := boundComposite_idAt refers.2.1
    exact ⟨_, bound.onCircle_iff.mpr onCircle, isClass.unique bound.isClassOf⟩

/-- No circle of references is left among the checks of a project. -/
theorem acyclic_resolve (files : Path.Map (List Marker)) (id : CheckId) :
    ¬ TransGen (Combines (resolve files).checks) id id :=
  acyclic_breakCycles id

end Simulation

/-- **Circles are taken out, and nothing else.** A composite occurrence loses its meaning exactly
when it leads to itself. The lost checks are listed in their classes: each class ascends, no two
share a check, and the classes ascend. Every other composite check keeps the parts it was wired to,
also when one of them is lost, and no circle of references is left. -/
theorem circles_taken_out (files : Path.Map (List Marker)) :
    (∀ occurrence id, BoundComposite files occurrence id →
      ((resolve files).checks[id.index]? = some (.unknown .cyclicReference) ↔
        TransGen (Occurrence.RefersTo files) occurrence occurrence)) ∧
    (∀ circle, circle ∈ (resolve files).cycles ↔
      ∃ occurrence, TransGen (Occurrence.RefersTo files) occurrence occurrence ∧
        IsClassOf files occurrence circle) ∧
    (resolve files).cycles.Pairwise List.Disjoint ∧
    ((resolve files).cycles.Pairwise fun left right =>
      left.map CheckId.index < right.map CheckId.index) ∧
    (∀ occurrence id, BoundComposite files occurrence id →
      ¬ TransGen (Occurrence.RefersTo files) occurrence occurrence →
        ∃ parts, (wiredChecks files)[id.index]? = some (.composite parts) ∧
          (resolve files).checks[id.index]? = some (.composite parts) ∧
            List.Forall₂ (Answers files) occurrence.marker.ids parts) ∧
    ∀ id, ¬ TransGen (Combines (resolve files).checks) id id := by
  refine ⟨?_, ?_, ?_, ?_, ?_, acyclic_resolve files⟩
  · intro occurrence id bound
    exact bound.cyclic_iff
  · intro circle
    exact mem_cycles_resolve_iff
  · exact pairwise_disjoint_cycles _
  · exact pairwise_lt_cycles _
  · intro occurrence id bound outside
    exact bound.stays outside

end DocMarkers
