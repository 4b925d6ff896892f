import DocMarkers.Proofs.FirstAppearance
import DocMarkers.Resolution.Cycle
import Mathlib.Logic.Relation

/-! # Circles among the checks of a list

`Combines checks` is the relation between a composite check and the checks it refers to. A check is
on a circle when it leads back to itself in one step or more. `mem_cycles_iff` says that `cycles`
lists exactly the classes of checks on circles that lead to each other; a class ascends
(`pairwise_circleOf`), no two classes share a member (`pairwise_disjoint_cycles`), and the classes
ascend as well (`pairwise_lt_cycles`).

Once the members of all circles are unknown, no circle is left (`acyclic_breakCycles`): a circle of
what is left would have been one before.
-/

namespace DocMarkers

open Relation

/-- The check at `whole` is composite and refers to `part`. -/
def Combines (checks : List Check) (whole part : CheckId) : Prop :=
  ∃ parts, checks[whole.index]? = some (.composite parts) ∧ part ∈ parts

/-- The check with an id is composite. -/
def IsComposite (checks : List Check) (id : CheckId) : Prop :=
  ∃ parts, checks[id.index]? = some (.composite parts)

section Reaching

variable {checks : List Check}

/-- A composite check has one list of parts. -/
theorem parts_unique {id : CheckId} {parts others : List CheckId}
    (found : checks[id.index]? = some (.composite parts))
    (same : checks[id.index]? = some (.composite others)) : parts = others :=
  Check.composite.inj (Option.some.inj (found.symm.trans same))

theorem Combines.isComposite {whole part : CheckId} (combines : Combines checks whole part) :
    IsComposite checks whole := by
  obtain ⟨parts, found, -⟩ := combines
  exact ⟨parts, found⟩

theorem isComposite_of_transGen {whole part : CheckId}
    (leads : TransGen (Combines checks) whole part) : IsComposite checks whole := by
  obtain ⟨_, first, -⟩ := TransGen.head'_iff.mp leads
  exact first.isComposite

theorem isComposite_iff {id : CheckId} :
    IsComposite checks id ↔ (checks[id.index]?).any Check.isComposite = true := by
  unfold IsComposite
  cases checks[id.index]? with
  | none => simp
  | some check => cases check <;> simp [Check.isComposite]

theorem mem_composites_iff {place : Nat} :
    place ∈ composites checks ↔ IsComposite checks ⟨place⟩ := by
  rw [isComposite_iff]
  unfold composites
  simp only [List.mem_filterMap, Prod.exists, List.mk_mem_zipIdx_iff_getElem?]
  constructor
  · rintro ⟨check, other, found, kept⟩
    obtain ⟨composite, same⟩ := Option.ite_none_right_eq_some.mp kept
    obtain rfl := Option.some.inj same
    rw [found]
    exact composite
  · intro composite
    obtain ⟨check, found, isComposite⟩ := (Option.any_eq_true _ _).mp composite
    exact ⟨check, place, found, by rw [if_pos isComposite]⟩

theorem pairwise_composites (checks : List Check) : (composites checks).Pairwise (· < ·) := by
  have places : checks.zipIdx.Pairwise fun left right => left.2 < right.2 := by
    rw [← List.pairwise_map (f := Prod.snd), List.zipIdx_map_snd]
    exact List.pairwise_lt_range'
  refine places.filterMap _ ?_
  rintro ⟨leftCheck, left⟩ ⟨rightCheck, right⟩ before leftKept leftSame rightKept rightSame
  obtain rfl := Option.some.inj (Option.ite_none_right_eq_some.mp leftSame).2
  obtain rfl := Option.some.inj (Option.ite_none_right_eq_some.mp rightSame).2
  exact before

theorem mem_map_index_iff {parts : List CheckId} {place : Nat} :
    place ∈ parts.map CheckId.index ↔ ⟨place⟩ ∈ parts := by
  constructor
  · intro member
    obtain ⟨part, inside, rfl⟩ := List.mem_map.mp member
    exact inside
  · intro inside
    exact List.mem_map.mpr ⟨⟨place⟩, inside, rfl⟩

theorem mem_successors_iff {whole part : Nat} :
    part ∈ successors checks whole ↔
      Combines checks ⟨whole⟩ ⟨part⟩ ∧ IsComposite checks ⟨part⟩ := by
  rw [isComposite_iff]
  unfold successors Combines
  cases checks[whole]? with
  | none => simp
  | some check =>
      rw [List.mem_filter, mem_map_index_iff]
      cases check <;> simp [Check.references]

/-- A row of steps among composite checks is a row of references that ends in a composite check. -/
theorem leads_iff {start goal : Nat} :
    Leads (successors checks) (composites checks) start goal ↔
      ReflTransGen (Combines checks) ⟨start⟩ ⟨goal⟩ ∧ IsComposite checks ⟨goal⟩ := by
  constructor
  · intro leads
    induction leads with
    | here inside => exact ⟨.refl, mem_composites_iff.mp inside⟩
    | step _ edge _ ih => exact ⟨.head (mem_successors_iff.mp edge).1 ih.1, ih.2⟩
  · rintro ⟨leads, composite⟩
    generalize same : CheckId.mk start = first at leads
    induction leads using ReflTransGen.head_induction_on generalizing start with
    | refl =>
        obtain rfl := congrArg CheckId.index same
        exact .here (mem_composites_iff.mpr composite)
    | @head _ middle edge _ ih =>
        subst same
        have rest : Leads (successors checks) (composites checks) middle.index goal := ih rfl
        refine .step (mem_composites_iff.mpr edge.isComposite) ?_ rest
        exact mem_successors_iff.mpr ⟨edge, mem_composites_iff.mp rest.start_mem⟩

/-- What is listed as reachable are the composite checks that references lead to. -/
theorem mem_reachable_iff {start goal : Nat} :
    goal ∈ reachable checks start ↔
      TransGen (Combines checks) ⟨start⟩ ⟨goal⟩ ∧ IsComposite checks ⟨goal⟩ := by
  unfold reachable
  rw [mem_explore_iff]
  constructor
  · rintro ⟨middle, edge, leads⟩
    obtain ⟨leads, composite⟩ := leads_iff.mp leads
    exact ⟨.head' (mem_successors_iff.mp edge).1 leads, composite⟩
  · rintro ⟨leads, composite⟩
    obtain ⟨middle, edge, rest⟩ := TransGen.head'_iff.mp leads
    have inner : Leads (successors checks) (composites checks) middle.index goal :=
      leads_iff.mpr ⟨rest, composite⟩
    exact ⟨middle.index,
      mem_successors_iff.mpr ⟨edge, mem_composites_iff.mp inner.start_mem⟩, inner⟩

end Reaching

/-- The check is on a circle of references. -/
def OnCircle (checks : List Check) (id : CheckId) : Prop :=
  TransGen (Combines checks) id id

/-- The checks on circles that lead to the check at `place` and that it leads to. -/
def circleOf (checks : List Check) (place : Nat) : List CheckId :=
  ((cyclic checks).filter fun (other, back) =>
    (reachable checks place).contains other && back.contains place).map fun (other, _) => ⟨other⟩

section Classes

variable {checks : List Check}

theorem OnCircle.isComposite {id : CheckId} (circle : OnCircle checks id) :
    IsComposite checks id :=
  isComposite_of_transGen circle

theorem mem_cyclic_iff {place : Nat} {reached : List Nat} :
    (place, reached) ∈ cyclic checks ↔
      OnCircle checks ⟨place⟩ ∧ reached = reachable checks place := by
  unfold cyclic
  simp only [List.mem_filter, List.mem_map, Prod.mk.injEq, List.contains_iff_mem]
  constructor
  · rintro ⟨⟨_, _, rfl, rfl⟩, back⟩
    exact ⟨(mem_reachable_iff.mp back).1, rfl⟩
  · rintro ⟨circle, rfl⟩
    have composite := circle.isComposite
    exact ⟨⟨place, mem_composites_iff.mpr composite, rfl, rfl⟩,
      mem_reachable_iff.mpr ⟨circle, composite⟩⟩

theorem pairwise_cyclic (checks : List Check) :
    (cyclic checks).Pairwise fun left right => left.1 < right.1 := by
  have rows : ((composites checks).map fun place => (place, reachable checks place)).Pairwise
      fun left right => left.1 < right.1 :=
    List.pairwise_map.mpr (pairwise_composites checks)
  exact rows.filter _

theorem mem_circleOf_iff {place : Nat} {id : CheckId} :
    id ∈ circleOf checks place ↔
      TransGen (Combines checks) ⟨place⟩ id ∧ TransGen (Combines checks) id ⟨place⟩ := by
  unfold circleOf
  simp only [List.mem_map, List.mem_filter, Prod.exists, Bool.and_eq_true, List.contains_iff_mem]
  constructor
  · rintro ⟨other, back, ⟨member, forth, reached⟩, rfl⟩
    obtain ⟨-, rfl⟩ := mem_cyclic_iff.mp member
    exact ⟨(mem_reachable_iff.mp forth).1, (mem_reachable_iff.mp reached).1⟩
  · rintro ⟨forth, back⟩
    refine ⟨id.index, reachable checks id.index, ⟨?_, ?_, ?_⟩, rfl⟩
    · exact mem_cyclic_iff.mpr ⟨back.trans forth, rfl⟩
    · exact mem_reachable_iff.mpr ⟨forth, isComposite_of_transGen back⟩
    · exact mem_reachable_iff.mpr ⟨back, isComposite_of_transGen forth⟩

theorem pairwise_circleOf (checks : List Check) (place : Nat) :
    (circleOf checks place).Pairwise fun left right => left.index < right.index := by
  unfold circleOf
  exact List.pairwise_map.mpr ((pairwise_cyclic checks).filter _)

/-- Checks that lead to each other have one class. -/
theorem circleOf_eq {left right : Nat} (forth : TransGen (Combines checks) ⟨left⟩ ⟨right⟩)
    (back : TransGen (Combines checks) ⟨right⟩ ⟨left⟩) :
    circleOf checks left = circleOf checks right := by
  have same (id : CheckId) : id ∈ circleOf checks left ↔ id ∈ circleOf checks right := by
    rw [mem_circleOf_iff, mem_circleOf_iff]
    constructor
    · rintro ⟨out, home⟩
      exact ⟨back.trans out, home.trans forth⟩
    · rintro ⟨out, home⟩
      exact ⟨forth.trans out, home.trans back⟩
  exact eq_of_pairwise_of_mem_iff Nat.lt_asymm (pairwise_circleOf checks left)
    (pairwise_circleOf checks right) same

theorem cycles_eq (checks : List Check) :
    cycles checks = distinct ((cyclic checks).map fun row => circleOf checks row.1) := by
  unfold cycles
  refine congrArg distinct (List.map_congr_left ?_)
  rintro ⟨place, reached⟩ member
  obtain ⟨-, rfl⟩ := mem_cyclic_iff.mp member
  rfl

/-- **The classes of circles.** What is listed are the classes of the checks on circles. -/
theorem mem_cycles_iff {circle : List CheckId} :
    circle ∈ cycles checks ↔
      ∃ place, OnCircle checks ⟨place⟩ ∧ circle = circleOf checks place := by
  rw [cycles_eq, mem_distinct, List.mem_map]
  constructor
  · rintro ⟨⟨place, reached⟩, member, rfl⟩
    exact ⟨place, (mem_cyclic_iff.mp member).1, rfl⟩
  · rintro ⟨place, circle, rfl⟩
    exact ⟨(place, reachable checks place), mem_cyclic_iff.mpr ⟨circle, rfl⟩, rfl⟩

/-- The members of the listed classes are the checks on circles. -/
theorem exists_mem_cycles_iff {id : CheckId} :
    (∃ circle ∈ cycles checks, id ∈ circle) ↔ OnCircle checks id := by
  constructor
  · rintro ⟨circle, listed, member⟩
    obtain ⟨place, -, rfl⟩ := mem_cycles_iff.mp listed
    obtain ⟨forth, back⟩ := mem_circleOf_iff.mp member
    exact back.trans forth
  · intro circle
    exact ⟨circleOf checks id.index, mem_cycles_iff.mpr ⟨id.index, circle, rfl⟩,
      mem_circleOf_iff.mpr ⟨circle, circle⟩⟩

/-- Two listed classes with a common member are one. -/
theorem cycles_eq_of_mem {left right : List CheckId} {id : CheckId}
    (leftListed : left ∈ cycles checks) (rightListed : right ∈ cycles checks)
    (inLeft : id ∈ left) (inRight : id ∈ right) : left = right := by
  obtain ⟨leftPlace, -, rfl⟩ := mem_cycles_iff.mp leftListed
  obtain ⟨rightPlace, -, rfl⟩ := mem_cycles_iff.mp rightListed
  obtain ⟨leftForth, leftBack⟩ := mem_circleOf_iff.mp inLeft
  obtain ⟨rightForth, rightBack⟩ := mem_circleOf_iff.mp inRight
  exact circleOf_eq (leftForth.trans rightBack) (rightForth.trans leftBack)

theorem pairwise_disjoint_cycles (checks : List Check) :
    (cycles checks).Pairwise List.Disjoint := by
  have different : (cycles checks).Pairwise (· ≠ ·) := nodup_distinct _
  refine different.imp_of_mem ?_
  intro left right leftListed rightListed distinct id inLeft inRight
  exact distinct (cycles_eq_of_mem leftListed rightListed inLeft inRight)

/-- A row that has a member below all members of another ascending row comes before it. -/
theorem map_index_lt_of_forall_lt {left right : List CheckId} {least : CheckId}
    (ascending : left.Pairwise fun one other => one.index < other.index) (inside : least ∈ left)
    (nonempty : right ≠ []) (below : ∀ id ∈ right, least.index < id.index) :
    left.map CheckId.index < right.map CheckId.index := by
  obtain ⟨leftHead, leftRest, rfl⟩ := List.exists_cons_of_ne_nil (List.ne_nil_of_mem inside)
  obtain ⟨rightHead, rightRest, rfl⟩ := List.exists_cons_of_ne_nil nonempty
  have headLe : leftHead.index ≤ least.index := by
    rcases List.mem_cons.mp inside with rfl | later
    · exact Nat.le_refl _
    · exact Nat.le_of_lt ((List.pairwise_cons.mp ascending).1 least later)
  have headLt : leftHead.index < rightHead.index :=
    Nat.lt_of_le_of_lt headLe (below rightHead List.mem_cons_self)
  exact List.Lex.rel headLt

/-- When a class is listed for the first time, it is for its least member: from an earlier member
the class would have been listed before. -/
theorem le_of_mem_new_circle {before after : List (Nat × List Nat)} {place : Nat}
    {reached : List Nat} (rows : cyclic checks = before ++ (place, reached) :: after)
    (fresh : circleOf checks place ∉ before.map fun row => circleOf checks row.1) {id : CheckId}
    (member : id ∈ circleOf checks place) : place ≤ id.index := by
  obtain ⟨forth, back⟩ := mem_circleOf_iff.mp member
  have inRows : (id.index, reachable checks id.index) ∈ cyclic checks :=
    mem_cyclic_iff.mpr ⟨back.trans forth, rfl⟩
  have ordered := pairwise_cyclic checks
  rw [rows] at inRows ordered
  rcases List.mem_append.mp inRows with early | late
  · exact absurd (List.mem_map.mpr ⟨_, early, circleOf_eq back forth⟩) fresh
  · rcases List.mem_cons.mp late with same | later
    · exact Nat.le_of_eq (congrArg Prod.fst same).symm
    · have below := (List.pairwise_cons.mp (List.pairwise_append.mp ordered).2.1).1 _ later
      exact Nat.le_of_lt below

/-- The listed classes ascend. A class is listed where its least member stands among the checks on
circles, so an earlier class has a member below all members of a later one. -/
theorem pairwise_lt_cycles (checks : List Check) :
    (cycles checks).Pairwise fun left right =>
      left.map CheckId.index < right.map CheckId.index := by
  rw [cycles_eq]
  apply pairwise_distinct_of_new
  intro before new after split fresh old earlier
  obtain ⟨first, rest, rows, firstMap, restMap⟩ := List.map_eq_append_iff.mp split
  obtain ⟨⟨place, reached⟩, last, rfl, rfl, -⟩ := List.map_eq_cons_iff.mp restMap
  subst firstMap
  obtain ⟨⟨oldPlace, oldReached⟩, oldRow, rfl⟩ := List.mem_map.mp earlier
  have ordered := pairwise_cyclic checks
  rw [rows] at ordered
  have oldBelow : oldPlace < place :=
    (List.pairwise_append.mp ordered).2.2 _ oldRow _ List.mem_cons_self
  have circle : OnCircle checks ⟨place⟩ :=
    (mem_cyclic_iff.mp (rows ▸ List.mem_append_right _ List.mem_cons_self)).1
  have oldCircle : OnCircle checks ⟨oldPlace⟩ :=
    (mem_cyclic_iff.mp (rows ▸ List.mem_append_left _ oldRow)).1
  have oldMember : ⟨oldPlace⟩ ∈ circleOf checks oldPlace :=
    mem_circleOf_iff.mpr ⟨oldCircle, oldCircle⟩
  have nonempty : circleOf checks place ≠ [] :=
    List.ne_nil_of_mem (mem_circleOf_iff.mpr ⟨circle, circle⟩)
  refine map_index_lt_of_forall_lt (pairwise_circleOf checks oldPlace) oldMember nonempty ?_
  intro id member
  exact Nat.lt_of_lt_of_le oldBelow (le_of_mem_new_circle rows fresh member)

end Classes

section Breaking

variable {checks : List Check}

/-- A check on a circle becomes unknown; every other check stays as it is. -/
theorem getElem?_breakCycles (checks : List Check) (id : CheckId) [Decidable (OnCircle checks id)] :
    (breakCycles checks (cycles checks))[id.index]? =
      (checks[id.index]?).map fun check =>
        if OnCircle checks id then .unknown .cyclicReference else check := by
  have listed : ((cycles checks).any fun circle => circle.contains id) = true ↔
      OnCircle checks id := by
    rw [List.any_eq_true, ← exists_mem_cycles_iff]
    simp only [List.contains_iff_mem]
  unfold breakCycles
  rw [List.getElem?_map, List.getElem?_zipIdx, Option.map_map]
  refine congrArg (fun change => Option.map change checks[id.index]?) ?_
  funext check
  simp only [Function.comp_apply, Nat.zero_add, listed]

theorem getElem?_breakCycles_of_not_onCircle {id : CheckId} (outside : ¬ OnCircle checks id) :
    (breakCycles checks (cycles checks))[id.index]? = checks[id.index]? := by
  classical
  rw [getElem?_breakCycles]
  simp only [outside, if_false, Option.map_id']

theorem getElem?_breakCycles_of_onCircle {id : CheckId} (circle : OnCircle checks id) :
    (breakCycles checks (cycles checks))[id.index]? = some (.unknown .cyclicReference) := by
  classical
  obtain ⟨parts, found⟩ := circle.isComposite
  rw [getElem?_breakCycles, found]
  simp only [circle, if_true, Option.map_some]

/-- A composite check that is left was composite before, with the same parts, and on no circle. -/
theorem composite_of_breakCycles {id : CheckId} {parts : List CheckId}
    (found : (breakCycles checks (cycles checks))[id.index]? = some (.composite parts)) :
    checks[id.index]? = some (.composite parts) ∧ ¬ OnCircle checks id := by
  have outside : ¬ OnCircle checks id := by
    intro circle
    rw [getElem?_breakCycles_of_onCircle circle] at found
    cases found
  rw [getElem?_breakCycles_of_not_onCircle outside] at found
  exact ⟨found, outside⟩

theorem Combines.of_breakCycles {whole part : CheckId}
    (combines : Combines (breakCycles checks (cycles checks)) whole part) :
    Combines checks whole part := by
  obtain ⟨parts, found, member⟩ := combines
  exact ⟨parts, (composite_of_breakCycles found).1, member⟩

/-- Once the members of all circles are unknown, no circle is left. -/
theorem acyclic_breakCycles (id : CheckId) :
    ¬ OnCircle (breakCycles checks (cycles checks)) id := by
  intro circle
  obtain ⟨parts, found⟩ := circle.isComposite
  have before : OnCircle checks id :=
    TransGen.mono (fun _ _ combines => combines.of_breakCycles) _ _ circle
  exact (composite_of_breakCycles found).2 before

end Breaking

end DocMarkers
