import DocMarkers.Proofs.Descents

/-! # How much there is to list

The weight of a directory counts it and the entries below it. A directory weighs more than all the
directories that stand in it together, because no two of them have an entry in common
(`Tree.sumOver_weight_lt`). So listing one directory after the other comes to an end, also where
links lead in a circle: they are not directories.
-/

namespace DocMarkers

/-- What a measure gives for all elements together. -/
def sumOver {α : Type} (measure : α → Nat) : List α → Nat
  | [] => 0
  | element :: rest => measure element + sumOver measure rest

section Sum

variable {α : Type} (measure : α → Nat)

theorem sumOver_append (front rest : List α) :
    sumOver measure (front ++ rest) = sumOver measure front + sumOver measure rest := by
  induction front with
  | nil => exact (Nat.zero_add _).symm
  | cons element front ih =>
    rw [List.cons_append, sumOver, sumOver, ih, Nat.add_assoc]

theorem sumOver_reverse (list : List α) : sumOver measure list.reverse = sumOver measure list := by
  induction list with
  | nil => rfl
  | cons element rest ih =>
    rw [List.reverse_cons, sumOver_append, ih, Nat.add_comm]
    rfl

end Sum

namespace Tree

/-- How many entries stand below a location. -/
def countBelow (tree : Tree) (location : Location) : Nat :=
  tree.rows.countP fun row => isWithin location row.1 && row.1 != location

/-- How many entries stand at a location or below it. -/
def countWithin (tree : Tree) (location : Location) : Nat :=
  tree.rows.countP fun row => isWithin location row.1

/-- How many directories can be listed from a path on. -/
def weight (tree : Tree) (path : Path) : Nat :=
  match tree.directory path with
  | .ok location => tree.countBelow location + 1
  | .error _ => 1

/-- Rows that are counted in two parts are not counted twice. -/
theorem countP_add_countP_le {rows : List Row} {part whole : Row → Bool}
    (inside : ∀ row, part row = true → whole row = true) :
    rows.countP part + rows.countP (fun row => whole row && !part row) ≤ rows.countP whole := by
  induction rows with
  | nil => exact Nat.le_refl 0
  | cons row rest ih =>
    have own := inside row
    simp only [List.countP_cons]
    cases isPart : part row with
    | true => simp [own isPart]; omega
    | false => cases whole row <;> simp <;> omega

/-- Entries below different entries of one directory are different. -/
theorem sumOver_countP_isWithin_le {rows : List Row} {location : Location} {names : List Name}
    (different : names.Pairwise (· ≠ ·)) {whole : Row → Bool}
    (inside : ∀ name ∈ names, ∀ row : Row, isWithin (name :: location) row.1 = true →
      whole row = true) :
    sumOver (fun name => rows.countP fun row => isWithin (name :: location) row.1) names ≤
      rows.countP whole := by
  induction names generalizing whole with
  | nil => exact Nat.zero_le _
  | cons name rest ih =>
    obtain ⟨others, later⟩ := List.pairwise_cons.mp different
    obtain ⟨first, insideLater⟩ := List.forall_mem_cons.mp inside
    -- What the first name counts is taken out of what the others may count.
    have apart : ∀ other ∈ rest, ∀ row : Row, isWithin (other :: location) row.1 = true →
        (whole row && !isWithin (name :: location) row.1) = true := by
      intro other member row within
      rw [Bool.and_eq_true, Bool.not_eq_true', ← Bool.not_eq_true]
      refine ⟨insideLater other member row within, ?_⟩
      intro both
      unfold isWithin at within both
      rw [List.isSuffixOf_iff_suffix] at within both
      have same : other :: location = name :: location :=
        (List.suffix_of_suffix_length_le within both (Nat.le_refl _)).eq_of_length rfl
      exact others other member (List.cons.inj same).1.symm
    have counted : rows.countP _ + _ ≤ rows.countP whole := countP_add_countP_le first
    have rest := ih later apart
    rw [sumOver]
    omega

section Descent

variable {tree : Tree} {path : Path} {location : Location}

theorem weight_join_le {name : Name} (entered : tree.directory path = .ok location)
    (found : tree.find? (name :: location) = some .directory) :
    tree.weight (path.join ⟨name.bytes⟩) ≤ tree.countWithin (name :: location) := by
  have own : isWithin (name :: location) (name :: location) = true :=
    List.isSuffixOf_iff_suffix.mpr List.suffix_rfl
  have member := mem_rows_iff.mpr found
  unfold weight
  cases joined : tree.directory (path.join ⟨name.bytes⟩) with
  | error error => exact List.countP_pos_iff.mpr ⟨_, member, own⟩
  | ok other =>
    obtain rfl := location_of_join entered found joined
    obtain ⟨before, after, rows⟩ := List.append_of_mem member
    have below (rows : List Row) : rows.countP (fun row => isWithin (name :: location) row.1 &&
        row.1 != name :: location) ≤ rows.countP fun row => isWithin (name :: location) row.1 := by
      apply List.countP_mono_left
      intro row _ both
      exact (Bool.and_eq_true_iff.mp both).1
    have first := below before
    have last := below after
    unfold countBelow countWithin
    rw [rows]
    simp [own]
    omega

theorem weight_pos (tree : Tree) (path : Path) : 0 < tree.weight path := by
  unfold weight
  split <;> exact Nat.succ_pos _

theorem sumOver_weight_filterMap_le {entries : List (Name × Entry)}
    {select : Name × Entry → Option Path} {bound : Name → Nat}
    (bounded : ∀ entry ∈ entries, ∀ other, select entry = some other →
      tree.weight other ≤ bound entry.1) :
    sumOver tree.weight (entries.filterMap select) ≤ sumOver bound (entries.map Prod.fst) := by
  induction entries with
  | nil => exact Nat.le_refl 0
  | cons entry rest ih =>
    obtain ⟨own, later⟩ := List.forall_mem_cons.mp bounded
    have others := ih later
    rw [List.map_cons, sumOver]
    cases selected : select entry with
    | none =>
      rw [List.filterMap_cons_none selected]
      omega
    | some other =>
      have first := own other selected
      rw [List.filterMap_cons_some selected, sumOver]
      omega

/-- The directories that stand in a directory have less weight than the directory. -/
theorem sumOver_weight_lt {select : Name × Entry → Option Path}
    (entered : tree.directory path = .ok location)
    (isJoined : ∀ name entry other, select (name, entry) = some other →
      entry = .directory ∧ other = path.join ⟨name.bytes⟩) :
    sumOver tree.weight ((tree.entriesIn location).filterMap select) < tree.weight path := by
  have bounded : ∀ entry ∈ tree.entriesIn location, ∀ other, select entry = some other →
      tree.weight other ≤ tree.countWithin (entry.1 :: location) := by
    intro entry member other selected
    obtain ⟨name, what⟩ := entry
    obtain ⟨rfl, rfl⟩ := isJoined name what other selected
    exact weight_join_le entered (mem_entriesIn_iff.mp member)
  have different := List.pairwise_map.mpr (tree.pairwise_entriesIn location)
  have below : ∀ name ∈ (tree.entriesIn location).map Prod.fst, ∀ row : Row,
      isWithin (name :: location) row.1 = true →
        (isWithin location row.1 && row.1 != location) = true := by
    intro name _ row within
    have isBelow := List.isSuffixOf_iff_suffix.mp within
    rw [Bool.and_eq_true, bne_iff_ne]
    refine ⟨List.isSuffixOf_iff_suffix.mpr ((List.suffix_cons _ _).trans isBelow), ?_⟩
    intro same
    have lengths := (same ▸ isBelow).length_le
    rw [List.length_cons] at lengths
    omega
  have counts : sumOver (fun name => tree.countWithin (name :: location))
      ((tree.entriesIn location).map Prod.fst) ≤ tree.countBelow location :=
    sumOver_countP_isWithin_le different below
  have weights : sumOver tree.weight ((tree.entriesIn location).filterMap select) ≤
      sumOver (fun name => tree.countWithin (name :: location))
        ((tree.entriesIn location).map Prod.fst) :=
    sumOver_weight_filterMap_le bounded
  have own : tree.weight path = tree.countBelow location + 1 := by
    unfold weight
    rw [entered]
  omega

end Descent

end Tree

end DocMarkers
