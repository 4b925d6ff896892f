/-! # Taking out repetitions

`distinctOn key` keeps, of the elements with one key, the first. The result is a part of the list in
the same order (`distinctOn_sublist`), no key comes twice in it (`pairwise_distinctOn`), and no key
of the list is lost (`exists_mem_distinctOn`).
-/

namespace DocMarkers

variable {α β : Type} [DecidableEq β]

/-- The elements that are the first of their key. -/
def distinctOn (key : α → β) : List α → List α
  | [] => []
  | first :: rest => first :: (distinctOn key rest).filter fun later => key later ≠ key first

theorem distinctOn_sublist (key : α → β) (list : List α) : (distinctOn key list).Sublist list := by
  induction list with
  | nil => exact .slnil
  | cons first rest ih => exact .cons_cons _ (List.filter_sublist.trans ih)

theorem mem_of_mem_distinctOn {key : α → β} {list : List α} {element : α}
    (member : element ∈ distinctOn key list) : element ∈ list :=
  (distinctOn_sublist key list).subset member

theorem pairwise_distinctOn (key : α → β) (list : List α) :
    (distinctOn key list).Pairwise fun left right => key left ≠ key right := by
  induction list with
  | nil => exact .nil
  | cons first rest ih =>
    refine List.pairwise_cons.mpr ⟨?_, ih.filter _⟩
    intro later member
    have different := (List.mem_filter.mp member).2
    exact fun same => of_decide_eq_true different same.symm

theorem exists_mem_distinctOn {key : α → β} {list : List α} {element : α}
    (member : element ∈ list) : ∃ kept ∈ distinctOn key list, key kept = key element := by
  induction list with
  | nil => simp at member
  | cons first rest ih =>
    by_cases same : key element = key first
    · exact ⟨first, List.mem_cons_self, same.symm⟩
    · rcases List.mem_cons.mp member with rfl | member
      · exact absurd rfl same
      · obtain ⟨kept, inside, equal⟩ := ih member
        refine ⟨kept, List.mem_cons_of_mem _ (List.mem_filter.mpr ⟨inside, ?_⟩), equal⟩
        simpa [equal] using same

/-- The different elements of a list, each at its first place. -/
def distinct (list : List β) : List β :=
  distinctOn id list

theorem mem_distinct {list : List β} {element : β} :
    element ∈ distinct list ↔ element ∈ list := by
  constructor
  · exact mem_of_mem_distinctOn
  · intro member
    have found : ∃ kept ∈ distinctOn id list, id kept = id element := exists_mem_distinctOn member
    obtain ⟨kept, inside, equal⟩ := found
    have same : kept = element := equal
    exact same ▸ inside

theorem nodup_distinct (list : List β) : (distinct list).Nodup :=
  pairwise_distinctOn id list

end DocMarkers
