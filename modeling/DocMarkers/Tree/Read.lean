import DocMarkers.Tree.Walk

/-! # Looking into a tree

Paths are looked up through symbolic links. A directory is listed by the names of its entries, and
links are listed as what they are.
-/

namespace DocMarkers.Tree

/-- Whether a path leads to an entry. -/
def isPresent (tree : Tree) (path : Path) : Bool :=
  (tree.locate path).isOk

/-- The location of the directory that a path leads to. -/
def directory (tree : Tree) (path : Path) : Except FileError Location := do
  match ← tree.locate path with
  | (location, .directory) => return location
  | _ => throw .notADirectory

/-- Whether a path leads to a directory. -/
def isDirectory (tree : Tree) (path : Path) : Bool :=
  (tree.directory path).isOk

theorem isDirectory_iff {tree : Tree} {path : Path} :
    tree.isDirectory path = true ↔ ∃ location, tree.directory path = .ok location := by
  unfold isDirectory
  cases tree.directory path <;> simp [Except.isOk, Except.toBool]

/-- A tree in which relative paths start at the directory that a path leads to. -/
def enter (tree : Tree) (path : Path) : Except FileError Tree :=
  return { tree with workingDirectory := ← tree.directory path }

/-- The text of the file that a path leads to. -/
def readText (tree : Tree) (path : Path) : Except FileError String := do
  match ← tree.locate path with
  | (_, .file bytes) =>
    match String.fromUTF8? bytes with
    | some text => return text
    | none => throw .notText
  | _ => throw .isADirectory

/-- The entries that stand in a directory, in the order of the table. -/
def entriesIn (tree : Tree) (location : Location) : List (Name × Entry) :=
  tree.rows.filterMap fun
    | (name :: parent, entry) => if parent = location then some (name, entry) else none
    | ([], _) => none

/-- Lists the directory that a path leads to. -/
def list (tree : Tree) (path : Path) : Except FileError (List (Name × Entry)) :=
  return tree.entriesIn (← tree.directory path)

theorem exists_of_list {tree : Tree} {path : Path} {entries : List (Name × Entry)}
    (listed : tree.list path = .ok entries) :
    ∃ location, tree.directory path = .ok location ∧ entries = tree.entriesIn location := by
  unfold list at listed
  cases entered : tree.directory path with
  | error error =>
    rw [entered] at listed
    cases listed
  | ok location =>
    rw [entered] at listed
    exact ⟨location, rfl, (Except.ok.inj listed).symm⟩

theorem list_of_directory {tree : Tree} {path : Path} {location : Location}
    (entered : tree.directory path = .ok location) :
    tree.list path = .ok (tree.entriesIn location) := by
  unfold list
  rw [entered]
  rfl

/-- A row of the table is what is found at its location. -/
theorem find?_of_mem_rows {tree : Tree} {location : Location} {entry : Entry}
    (member : (location, entry) ∈ tree.rows) : tree.find? location = some entry := by
  obtain ⟨before, after, rows⟩ := List.append_of_mem member
  have apart : ∀ row ∈ before, row.1 ≠ location := by
    intro row earlier
    have distinct := tree.distinct
    rw [rows] at distinct
    exact (List.pairwise_append.mp distinct).2.2 row earlier _ List.mem_cons_self
  have found : tree.rows.lookup location = some entry := by
    apply List.lookup_eq_some_iff.mpr
    refine ⟨before, after, rows, ?_⟩
    intro row earlier
    exact bne_iff_ne.mpr (apart row earlier).symm
  obtain ⟨name, parent, isBelow, -⟩ := tree.inside _ member
  obtain rfl : location = name :: parent := isBelow
  exact found

theorem mem_rows_iff {tree : Tree} {name : Name} {parent : Location} {entry : Entry} :
    (name :: parent, entry) ∈ tree.rows ↔ tree.find? (name :: parent) = some entry := by
  constructor
  · exact find?_of_mem_rows
  · intro found
    have isThere : tree.rows.lookup (name :: parent) = some entry := found
    obtain ⟨before, after, rows, -⟩ := List.lookup_eq_some_iff.mp isThere
    rw [rows]
    exact List.mem_append_right before List.mem_cons_self

/-- What is listed is what is found one name further down. -/
theorem mem_entriesIn_iff {tree : Tree} {location : Location} {name : Name} {entry : Entry} :
    (name, entry) ∈ tree.entriesIn location ↔ tree.find? (name :: location) = some entry := by
  rw [← mem_rows_iff]
  unfold entriesIn
  rw [List.mem_filterMap]
  constructor
  · intro listed
    obtain ⟨⟨own, what⟩, member, isListed⟩ := listed
    cases own with
    | nil => cases isListed
    | cons first parent =>
      obtain ⟨rfl, same⟩ := Option.ite_none_right_eq_some.mp isListed
      obtain ⟨rfl, rfl⟩ := Prod.mk.inj (Option.some.inj same)
      exact member
  · intro member
    exact ⟨_, member, if_pos rfl⟩

/-- No name is listed twice. -/
theorem pairwise_entriesIn (tree : Tree) (location : Location) :
    (tree.entriesIn location).Pairwise fun left right => left.1 ≠ right.1 := by
  refine tree.distinct.filterMap _ ?_
  intro left right apart leftListed isLeft rightListed isRight same
  obtain ⟨leftLocation, leftEntry⟩ := left
  obtain ⟨rightLocation, rightEntry⟩ := right
  cases leftLocation with
  | nil => cases isLeft
  | cons leftName leftParent =>
    cases rightLocation with
    | nil => cases isRight
    | cons rightName rightParent =>
      obtain ⟨rfl, leftSame⟩ := Option.ite_none_right_eq_some.mp isLeft
      obtain ⟨rfl, rightSame⟩ := Option.ite_none_right_eq_some.mp isRight
      rw [← Option.some.inj leftSame, ← Option.some.inj rightSame] at same
      exact apart (congrArg (· :: _) same)

/-- The names that lead down from one location to another. -/
def namesDown? (above location : Location) : Option (List Name) :=
  if isWithin above location then some (location.take (location.length - above.length)).reverse
  else none

/-- The entries below a location, each with the names that lead down to it. -/
def below (tree : Tree) (above : Location) : List (List Name × Entry) :=
  tree.rows.filterMap fun (location, entry) =>
    (namesDown? above location).map fun names => (names, entry)

end DocMarkers.Tree
