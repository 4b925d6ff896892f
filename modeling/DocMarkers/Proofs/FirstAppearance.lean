import DocMarkers.Distinct
import Mathlib.Data.List.Forall2
import Mathlib.Data.List.Induction
import Mathlib.Data.List.Nodup

/-! # First appearances

`distinct` and `distinctOn` keep what appears for the first time. Read from the end, a list keeps
its last element exactly when nothing before it is the same (`distinct_concat`), so a relation
between each new element and all elements before it holds throughout the result
(`pairwise_distinct_of_new`). Elements kept by `distinctOn` stand in the order of the places at
which their keys first appear (`pairwise_findIdx_distinctOn`).

Numbering the elements of a list in the order in which they first appear, the numbers that appear
for the first time are 0, 1, 2 and so on (`distinct_map_idxOf`).
-/

namespace DocMarkers

theorem exists_mem_of_forall₂ {α β : Type} {related : α → β → Prop} {left : List α} {right : List β}
    (rows : List.Forall₂ related left right) {element : β} (member : element ∈ right) :
    ∃ partner ∈ left, related partner element := by
  obtain ⟨lengths, each⟩ := List.forall₂_iff_get.mp rows
  obtain ⟨place, rfl⟩ := List.mem_iff_get.mp member
  have inside : place.val < left.length := lengths.symm ▸ place.isLt
  exact ⟨_, List.get_mem left _, each place inside place.isLt⟩

/-- There is one way to put elements in a strict order. -/
theorem eq_of_pairwise_of_mem_iff {α : Type} {before : α → α → Prop}
    (asymm : ∀ {one other : α}, before one other → ¬ before other one) {left right : List α}
    (leftOrdered : left.Pairwise before) (rightOrdered : right.Pairwise before)
    (same : ∀ element, element ∈ left ↔ element ∈ right) : left = right := by
  have nodup {list : List α} (ordered : list.Pairwise before) : list.Nodup := by
    apply ordered.imp
    intro one other isBefore equal
    subst equal
    exact asymm isBefore isBefore
  have permuted := (List.perm_ext_iff_of_nodup (nodup leftOrdered) (nodup rightOrdered)).mpr same
  exact permuted.eq_of_pairwise
    (fun _ _ _ _ isBefore isAfter => absurd isAfter (asymm isBefore)) leftOrdered rightOrdered

/-- An element that joins others in a strict order stands between some of them. -/
theorem exists_insertion_of_mem_iff {α : Type} {before : α → α → Prop}
    (asymm : ∀ {one other : α}, before one other → ¬ before other one) {left right : List α}
    {new : α} (leftOrdered : left.Pairwise before) (rightOrdered : right.Pairwise before)
    (absent : new ∉ left) (joined : ∀ element, element ∈ right ↔ element ∈ left ∨ element = new) :
    ∃ first rest, left = first ++ rest ∧ right = first ++ new :: rest := by
  obtain ⟨first, rest, rfl⟩ := List.append_of_mem ((joined new).mpr (.inr rfl))
  obtain ⟨ordered, others, across⟩ := List.pairwise_append.mp rightOrdered
  obtain ⟨after, restOrdered⟩ := List.pairwise_cons.mp others
  have apart : ∀ element ∈ first ++ rest, element ≠ new := by
    intro element member same
    subst same
    rcases List.mem_append.mp member with early | late
    · have itself := across element early element List.mem_cons_self
      exact asymm itself itself
    · exact asymm (after element late) (after element late)
  refine ⟨first, rest, eq_of_pairwise_of_mem_iff asymm leftOrdered ?_ ?_, rfl⟩
  · exact rightOrdered.sublist ((List.sublist_cons_self new rest).append_left first)
  · intro element
    have isJoined := joined element
    simp only [List.mem_append, List.mem_cons] at isJoined apart ⊢
    constructor
    · intro member
      have different : element ≠ new := fun same => absent (same ▸ member)
      rcases isJoined.mpr (.inl member) with early | same | late
      · exact .inl early
      · exact absurd same different
      · exact .inr late
    · intro member
      rcases isJoined.mp (member.imp_right .inr) with old | same
      · exact old
      · exact absurd same (apart element member)

variable {α β γ : Type} [DecidableEq β]

/-- The last element of a list is kept when it is new. -/
theorem distinct_concat (list : List β) (last : β) :
    distinct (list ++ [last]) = if last ∈ list then distinct list else distinct list ++ [last] := by
  induction list with
  | nil => rfl
  | cons first rest ih =>
      have unfolded : distinct (first :: (rest ++ [last])) =
          first :: (distinct (rest ++ [last])).filter fun later => later ≠ first := rfl
      rw [List.cons_append, unfolded, ih]
      by_cases inside : last ∈ rest
      · rw [if_pos inside, if_pos (List.mem_cons_of_mem _ inside)]
        rfl
      · rw [if_neg inside]
        by_cases same : last = first
        · subst same
          rw [if_pos List.mem_cons_self, List.filter_append]
          simp only [ne_eq, not_true_eq_false, decide_false, Bool.false_eq_true, not_false_eq_true,
            List.filter_cons_of_neg, List.filter_nil, List.append_nil]
          rfl
        · have outside : last ∉ first :: rest := by
            intro member
            rcases List.mem_cons.mp member with equal | member
            · exact same equal
            · exact inside member
          rw [if_neg outside, List.filter_append]
          simp only [ne_eq, same, not_false_eq_true, decide_true, List.filter_cons_of_pos,
            List.filter_nil]
          rfl

/-- What holds between each new element and all elements before it holds throughout the different
elements. -/
theorem pairwise_distinct_of_new {relation : β → β → Prop} {list : List β}
    (fresh : ∀ before new after, list = before ++ new :: after → new ∉ before →
      ∀ old ∈ before, relation old new) :
    (distinct list).Pairwise relation := by
  induction list using List.reverseRecOn with
  | nil => exact .nil
  | append_singleton list last ih =>
      have inner : (distinct list).Pairwise relation := by
        apply ih
        intro before new after split
        exact fresh before new (after ++ [last]) (by rw [split]; simp)
      rw [distinct_concat]
      split
      · exact inner
      · next new =>
        refine List.pairwise_append.mpr ⟨inner, List.pairwise_singleton _ _, ?_⟩
        intro old kept _ isLast
        rw [List.mem_singleton.mp isLast]
        exact fresh list last [] rfl new old (mem_distinct.mp kept)

/-- The elements that are kept stand in the order in which their keys first appear. -/
theorem pairwise_findIdx_distinctOn (key : α → β) (list : List α) :
    (distinctOn key list).Pairwise fun left right =>
      list.findIdx (fun element => key element = key left) <
        list.findIdx fun element => key element = key right := by
  induction list with
  | nil => exact .nil
  | cons first rest ih =>
      refine List.pairwise_cons.mpr ⟨?_, ?_⟩
      · intro later member
        have different : key later ≠ key first := of_decide_eq_true (List.mem_filter.mp member).2
        rw [List.findIdx_cons, List.findIdx_cons, decide_eq_true rfl,
          decide_eq_false different.symm]
        exact Nat.zero_lt_succ _
      · refine (ih.filter _).imp_of_mem ?_
        intro left right leftMember rightMember before
        have leftDifferent : key left ≠ key first :=
          of_decide_eq_true (List.mem_filter.mp leftMember).2
        have rightDifferent : key right ≠ key first :=
          of_decide_eq_true (List.mem_filter.mp rightMember).2
        rw [List.findIdx_cons, List.findIdx_cons, decide_eq_false leftDifferent.symm,
          decide_eq_false rightDifferent.symm]
        exact Nat.succ_lt_succ before

/-- Of two lists in a row, the first keeps what it keeps alone, and the second what it keeps alone
and the first does not have. -/
theorem distinctOn_append (key : α → β) (left right : List α) :
    distinctOn key (left ++ right) = distinctOn key left ++
      (distinctOn key right).filter fun later => key later ∉ left.map key := by
  induction left with
  | nil => simp [distinctOn]
  | cons first rest ih =>
      have new : ∀ later, (decide (key later ≠ key first) && decide (key later ∉ rest.map key)) =
          decide (key later ∉ (first :: rest).map key) := by
        intro later
        simp only [← Bool.decide_and, List.map_cons, List.mem_cons, not_or]
      simp only [List.cons_append, distinctOn, ih, List.filter_append, List.filter_filter, new]

theorem distinct_append (left right : List β) :
    distinct (left ++ right) =
      distinct left ++ (distinct right).filter fun later => later ∉ left := by
  have both := distinctOn_append id left right
  rw [List.map_id] at both
  exact both

theorem distinctOn_append_of_apart {key : α → β} {left right : List α}
    (apart : ∀ earlier ∈ left, ∀ later ∈ right, key earlier ≠ key later) :
    distinctOn key (left ++ right) = distinctOn key left ++ distinctOn key right := by
  rw [distinctOn_append, List.filter_eq_self.mpr]
  intro later kept
  apply decide_eq_true
  intro member
  obtain ⟨earlier, inside, same⟩ := List.mem_map.mp member
  exact apart earlier inside later (mem_of_mem_distinctOn kept) same

theorem distinctOn_eq_self {key : α → β} {list : List α}
    (apart : list.Pairwise fun left right => key left ≠ key right) :
    distinctOn key list = list := by
  induction list with
  | nil => rfl
  | cons first rest ih =>
      obtain ⟨different, later⟩ := List.pairwise_cons.mp apart
      unfold distinctOn
      rw [ih later, List.filter_eq_self.mpr]
      intro element member
      exact decide_eq_true (different element member).symm

/-- Only which keys are the same matters, not what they are. -/
theorem distinctOn_congr [DecidableEq γ] {key : α → β} {other : α → γ}
    (agree : ∀ left right, key left = key right ↔ other left = other right) (list : List α) :
    distinctOn key list = distinctOn other list := by
  induction list with
  | nil => rfl
  | cons first rest ih => simp only [distinctOn, ih, ne_eq, agree]

theorem distinctOn_map (key : α → β) (change : γ → α) (list : List γ) :
    distinctOn key (list.map change) =
      (distinctOn (fun element => key (change element)) list).map change := by
  induction list with
  | nil => rfl
  | cons first rest ih =>
      rw [List.map_cons, distinctOn, ih, List.filter_map]
      rfl

theorem distinct_filter (keep : β → Bool) (list : List β) :
    distinct (list.filter keep) = (distinct list).filter keep := by
  induction list using List.reverseRecOn with
  | nil => rfl
  | append_singleton list last ih =>
      rw [List.filter_append, distinct_concat]
      by_cases kept : keep last = true
      · rw [List.filter_cons_of_pos kept, List.filter_nil, distinct_concat, ih]
        by_cases inside : last ∈ list
        · rw [if_pos (List.mem_filter.mpr ⟨inside, kept⟩), if_pos inside]
        · rw [if_neg fun member => inside (List.mem_filter.mp member).1, if_neg inside]
          simp only [List.filter_append, List.filter_cons_of_pos kept, List.filter_nil]
      · rw [List.filter_cons_of_neg kept, List.filter_nil, List.append_nil, ih]
        by_cases inside : last ∈ list
        · rw [if_pos inside]
        · rw [if_neg inside, List.filter_append, List.filter_cons_of_neg kept, List.filter_nil,
            List.append_nil]

/-- A change that keeps elements apart keeps what appears first. -/
theorem distinct_map_of_injOn [DecidableEq γ] {change : β → γ} {list : List β}
    (injective : ∀ left ∈ list, ∀ right ∈ list, change left = change right → left = right) :
    distinct (list.map change) = (distinct list).map change := by
  induction list using List.reverseRecOn with
  | nil => rfl
  | append_singleton list last ih =>
      have inner : distinct (list.map change) = (distinct list).map change := by
        apply ih
        intro left leftMember right rightMember
        exact injective left (List.mem_append_left _ leftMember) right
          (List.mem_append_left _ rightMember)
      have old : change last ∈ list.map change ↔ last ∈ list := by
        constructor
        · intro member
          obtain ⟨other, inside, same⟩ := List.mem_map.mp member
          rw [← injective other (List.mem_append_left _ inside) last (by simp) same]
          exact inside
        · exact List.mem_map_of_mem
      rw [List.map_append, List.map_singleton, distinct_concat, distinct_concat, inner]
      by_cases inside : last ∈ list
      · rw [if_pos (old.mpr inside), if_pos inside]
      · rw [if_neg (mt old.mp inside), if_neg inside, List.map_append, List.map_singleton]

theorem map_idxOf_self {list : List β} (nodup : list.Nodup) :
    list.map list.idxOf = List.range list.length := by
  apply List.ext_getElem
  · simp
  · intro place _ _
    simp [nodup.idxOf_getElem]

/-- Elements that are numbered in the order of their first appearance, with room for others behind
them, make the numbers appear in order. -/
theorem distinct_map_idxOf (list rest : List β) :
    distinct (list.map fun element => (distinct list ++ rest).idxOf element) =
      List.range (distinct list).length := by
  have places : (list.map fun element => (distinct list ++ rest).idxOf element) =
      list.map (distinct list).idxOf := by
    apply List.map_congr_left
    intro element member
    exact List.idxOf_append_of_mem (mem_distinct.mpr member)
  rw [places, distinct_map_of_injOn, map_idxOf_self (nodup_distinct list)]
  intro left leftMember right rightMember same
  exact (List.idxOf_inj (mem_distinct.mpr leftMember)).mp same

end DocMarkers
