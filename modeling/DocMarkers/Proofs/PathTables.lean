import DocMarkers.Path.Map
import Mathlib.Data.List.Induction
import Mathlib.Data.List.Pairwise

/-! # The entries of tables

Of two different paths one comes before the other (`Path.same_of_not_lt`). So a table has one entry
for each path (`Path.Map.entry_unique`), and the table of entries whose paths are all different has
just these entries (`Path.Map.mem_ofList_iff`), in the same order if that ascends
(`Path.Map.entries_ofList`).
-/

namespace DocMarkers.Path

instance : Std.Trichotomous (α := Component) (· < ·) where
  trichotomous left right notLess notGreater := by
    have ranks : left.rank = right.rank := by
      have notBelow : ¬ left.rank < right.rank := fun less => notLess (.inl less)
      have notAbove : ¬ right.rank < left.rank := fun less => notGreater (.inl less)
      omega
    have notBelow : ¬ left.label < right.label := fun less => notLess (.inr ⟨ranks, less⟩)
    have notAbove : ¬ right.label < left.label := fun less => notGreater (.inr ⟨ranks.symm, less⟩)
    have labels : left.label = right.label :=
      List.le_antisymm (List.not_lt.mp notAbove) (List.not_lt.mp notBelow)
    exact Component.eq_of_rank_of_label ranks labels

theorem same_of_not_lt {left right : Path} (notLess : ¬ left < right)
    (notGreater : ¬ right < left) : left.Same right := by
  have below : left.components ≤ right.components := List.not_lt.mp notGreater
  have above : right.components ≤ left.components := List.not_lt.mp notLess
  exact List.le_antisymm below above

theorem not_same_of_lt {left right : Path} (before : left < right) : ¬ left.Same right := by
  intro same
  have steps : left.components = right.components := same
  have below : left.components < right.components := before
  rw [steps] at below
  exact lt_irrefl right below

theorem lt_of_lt_of_not_lt {first second third : Path} (before : first < second)
    (notAfter : ¬ third < second) : first < third := by
  by_cases between : second < third
  · exact lt_trans before between
  · have steps : second.components = third.components := same_of_not_lt between notAfter
    have below : first.components < second.components := before
    rw [steps] at below
    exact below

namespace Map

variable {α β : Type} {map : Map α} {path : Path} {value : α}

theorem eq_of_entries {left right : Map α} (same : left.entries = right.entries) :
    left = right := by
  cases left
  cases right
  congr

/-- Entries of a table at one path, in whatever spelling, are one entry. -/
theorem entry_unique {left right : Path × α} (leftMember : left ∈ map.entries)
    (rightMember : right ∈ map.entries) (same : left.1.Same right.1) : left = right := by
  have forward : map.entries.Pairwise fun left right => left.1.Same right.1 → left = right :=
    map.ascending.imp fun before same => absurd same (not_same_of_lt before)
  have backward : map.entries.Pairwise fun left right => right.1.Same left.1 → right = left :=
    map.ascending.imp fun before same => absurd (Eq.symm same) (not_same_of_lt before)
  exact forward.forall_of_forall_of_flip (fun _ _ _ => rfl) backward leftMember rightMember same

theorem mem_filterMap_iff {keep : Path → α → Option β} {kept : β} :
    (path, kept) ∈ (map.filterMap keep).entries ↔
      ∃ value, (path, value) ∈ map.entries ∧ keep path value = some kept := by
  unfold filterMap
  simp [List.mem_filterMap]

/-- Inserting at a new path adds one entry and changes no other. -/
theorem mem_insertEntry_iff {entries : List (Path × α)} {entry : Path × α}
    (new : ∀ old ∈ entries, ¬ old.1.Same path) :
    entry ∈ insertEntry path value entries ↔ entry = (path, value) ∨ entry ∈ entries := by
  induction entries with
  | nil => simp [insertEntry]
  | cons head rest ih =>
      obtain ⟨key, old⟩ := head
      have different : ¬ key.Same path := new (key, old) List.mem_cons_self
      have later := ih fun entry member => new entry (List.mem_cons_of_mem _ member)
      unfold insertEntry
      by_cases before : path < key
      · rw [if_pos before, List.mem_cons]
      · by_cases after : key < path
        · rw [if_neg before, if_pos after, List.mem_cons, later, List.mem_cons]
          exact or_left_comm
        · exact absurd (same_of_not_lt after before) different

theorem entries_insert (map : Map α) (path : Path) (value : α) :
    (map.insert path value).entries = insertEntry path value map.entries :=
  rfl

theorem ofList_concat (entries : List (Path × α)) (last : Path × α) :
    ofList (entries ++ [last]) = (ofList entries).insert last.1 last.2 := by
  unfold ofList
  rw [List.foldl_append]
  rfl

/-- The table of entries at different paths has these entries. -/
theorem mem_ofList_iff {entries : List (Path × α)} {entry : Path × α}
    (different : entries.Pairwise fun left right => ¬ left.1.Same right.1) :
    entry ∈ (ofList entries).entries ↔ entry ∈ entries := by
  induction entries using List.reverseRecOn generalizing entry with
  | nil => exact Iff.rfl
  | append_singleton entries last ih =>
      obtain ⟨inner, -, apart⟩ := List.pairwise_append.mp different
      have new : ∀ old ∈ (ofList entries).entries, ¬ old.1.Same last.1 := by
        intro old member
        exact apart old ((ih inner).mp member) last (List.mem_singleton_self last)
      rw [ofList_concat, entries_insert, mem_insertEntry_iff new, ih inner, List.mem_append,
        List.mem_singleton]
      exact or_comm

theorem insertEntry_of_last {entries : List (Path × α)}
    (last : ∀ entry ∈ entries, entry.1 < path) :
    insertEntry path value entries = entries ++ [(path, value)] := by
  induction entries with
  | nil => rfl
  | cons head rest ih =>
      obtain ⟨key, old⟩ := head
      obtain ⟨before, later⟩ := List.forall_mem_cons.mp last
      have notBefore : ¬ path < key := fun after => lt_irrefl key (lt_trans before after)
      unfold insertEntry
      rw [if_neg notBefore, if_pos before, ih later]
      rfl

/-- The table of entries that ascend has these entries, in their order. -/
theorem entries_ofList {entries : List (Path × α)}
    (ascending : entries.Pairwise fun left right => left.1 < right.1) :
    (ofList entries).entries = entries := by
  induction entries using List.reverseRecOn with
  | nil => rfl
  | append_singleton entries last ih =>
      obtain ⟨inner, -, before⟩ := List.pairwise_append.mp ascending
      rw [ofList_concat, entries_insert, ih inner]
      apply insertEntry_of_last
      intro entry member
      exact before entry member last (List.mem_singleton_self last)

/-- A table is looked up by any spelling of a path. -/
theorem find?_eq_some_iff :
    map.find? path = some value ↔ ∃ key, (key, value) ∈ map.entries ∧ key.Same path := by
  unfold find?
  constructor
  · intro found
    obtain ⟨⟨key, own⟩, search, rfl⟩ := Option.map_eq_some_iff.mp found
    have same := List.find?_some search
    rw [decide_eq_true_iff] at same
    exact ⟨key, List.mem_of_find?_eq_some search, same⟩
  · intro listed
    obtain ⟨key, member, same⟩ := listed
    cases search : map.entries.find? fun entry => decide (entry.1.Same path) with
    | none =>
        have passedOver := List.find?_eq_none.mp search (key, value) member
        rw [decide_eq_true_iff] at passedOver
        exact absurd same passedOver
    | some other =>
        have otherSame := List.find?_some search
        rw [decide_eq_true_iff] at otherSame
        have otherMember := List.mem_of_find?_eq_some search
        rw [entry_unique otherMember member (Eq.trans otherSame (Eq.symm same))]
        rfl

theorem find?_eq_none_iff :
    map.find? path = none ↔ ∀ entry ∈ map.entries, ¬ entry.1.Same path := by
  unfold find?
  rw [Option.map_eq_none_iff, List.find?_eq_none]
  simp

end Map

end DocMarkers.Path
