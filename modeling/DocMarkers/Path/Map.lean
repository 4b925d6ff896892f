import DocMarkers.Path.Basic

/-! # Tables ordered by path

A table holds its keys in ascending order, so it has one entry for each path, whatever the spelling.
Setting an entry again keeps the first spelling of the key and replaces the value.
-/

namespace DocMarkers.Path

/-- A finite table from paths to values, in the order of the paths. -/
structure Map (α : Type) where
  /-- The keys with their values. -/
  entries : List (Path × α)
  /-- The keys ascend, so none comes twice. -/
  ascending : entries.Pairwise fun left right => left.1 < right.1

namespace Map

variable {α β : Type}

/-- The table without entries. -/
def empty : Map α :=
  ⟨[], .nil⟩

/-- Puts an entry into an ascending list, in place of the value that its key had. -/
def insertEntry (path : Path) (value : α) : List (Path × α) → List (Path × α)
  | [] => [(path, value)]
  | (key, old) :: rest =>
    if path < key then (path, value) :: (key, old) :: rest
    else if key < path then (key, old) :: insertEntry path value rest
    else (key, value) :: rest

/-- The keys after an insertion are the old ones and the new one. -/
theorem key_of_mem_insertEntry {path : Path} {value : α} {entries : List (Path × α)}
    {entry : Path × α} (member : entry ∈ insertEntry path value entries) :
    entry.1 = path ∨ ∃ old ∈ entries, entry.1 = old.1 := by
  induction entries with
  | nil =>
    simp only [insertEntry, List.mem_singleton] at member
    exact .inl (by rw [member])
  | cons head rest ih =>
    obtain ⟨key, old⟩ := head
    simp only [insertEntry] at member
    split at member
    · rcases List.mem_cons.mp member with rfl | member
      · exact .inl rfl
      · exact .inr ⟨entry, member, rfl⟩
    · split at member
      · rcases List.mem_cons.mp member with rfl | member
        · exact .inr ⟨_, List.mem_cons_self, rfl⟩
        · rcases ih member with same | ⟨other, inside, same⟩
          · exact .inl same
          · exact .inr ⟨other, List.mem_cons_of_mem _ inside, same⟩
      · rcases List.mem_cons.mp member with rfl | member
        · exact .inr ⟨(key, old), List.mem_cons_self, rfl⟩
        · exact .inr ⟨entry, List.mem_cons_of_mem _ member, rfl⟩

theorem pairwise_insertEntry (path : Path) (value : α) {entries : List (Path × α)}
    (ascending : entries.Pairwise fun left right => left.1 < right.1) :
    (insertEntry path value entries).Pairwise fun left right => left.1 < right.1 := by
  induction entries with
  | nil => simp [insertEntry]
  | cons head rest ih =>
    obtain ⟨key, old⟩ := head
    rw [List.pairwise_cons] at ascending
    simp only [insertEntry]
    split
    · next before =>
      refine List.pairwise_cons.mpr ⟨?_, List.pairwise_cons.mpr ascending⟩
      intro entry member
      rcases List.mem_cons.mp member with rfl | member
      · exact before
      · exact lt_trans before (ascending.1 entry member)
    · split
      · next after =>
        refine List.pairwise_cons.mpr ⟨?_, ih ascending.2⟩
        intro entry member
        rcases key_of_mem_insertEntry member with same | ⟨other, inside, same⟩
        · simpa [same] using after
        · simpa [same] using ascending.1 other inside
      · exact List.pairwise_cons.mpr ascending

/-- A table with one more entry, or with a new value at a path it has. -/
def insert (map : Map α) (path : Path) (value : α) : Map α :=
  ⟨insertEntry path value map.entries, pairwise_insertEntry path value map.ascending⟩

/-- The table of a list of entries, each set in turn. -/
def ofList (entries : List (Path × α)) : Map α :=
  entries.foldl (fun map entry => map.insert entry.1 entry.2) empty

/-- The value at a path, in whatever spelling. -/
def find? (map : Map α) (path : Path) : Option α :=
  (map.entries.find? fun entry => decide (entry.1.Same path)).map (·.2)

/-- The entries whose value is kept, with what is kept of it. -/
def filterMap (keep : Path → α → Option β) (map : Map α) : Map β where
  entries := map.entries.filterMap fun entry => (keep entry.1 entry.2).map (entry.1, ·)
  ascending := by
    refine map.ascending.filterMap _ ?_
    intro left right before left' leftKept right' rightKept
    simp only [Option.map_eq_some_iff] at leftKept rightKept
    obtain ⟨_, -, rfl⟩ := leftKept
    obtain ⟨_, -, rfl⟩ := rightKept
    exact before

end Map

end DocMarkers.Path
