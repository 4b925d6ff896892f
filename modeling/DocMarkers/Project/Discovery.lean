import DocMarkers.Config.Settings
import DocMarkers.Notice
import DocMarkers.Tree.Weight

/-! # Finding documents

The documents of a project are the regular files below its root that have an extension of documents
and stand in no directory that is left out. Symbolic links are neither documents nor entered. The
root itself is never left out, and may be reached through a link.

A search lists one directory after the other, and the directories that it finds wait until they are
listed. Each directory that is listed gives way to directories that weigh less, so the search ends.
-/

namespace DocMarkers

namespace Discovery

/-- A directory that stands in another one and is entered in its turn. -/
def entered? (settings : Settings) (directory : Path) : Name × Entry → Option Path
  | (name, .directory) =>
    let path := directory.join ⟨name.bytes⟩
    if settings.leavesOut path then none else some path
  | _ => none

theorem eq_join_of_entered? {settings : Settings} {directory : Path} (name : Name) (entry : Entry)
    (path : Path) (isEntered : entered? settings directory (name, entry) = some path) :
    entry = .directory ∧ path = directory.join ⟨name.bytes⟩ := by
  unfold entered? at isEntered
  split at isEntered
  · next same =>
    obtain ⟨rfl, rfl⟩ := Prod.mk.inj same
    exact ⟨rfl, (Option.some.inj (Option.ite_none_left_eq_some.mp isEntered).2).symm⟩
  · cases isEntered

/-- A directory that stands in another one and is left out. -/
def leftOut? (settings : Settings) (directory : Path) : Name × Entry → Option Path
  | (name, .directory) =>
    let path := directory.join ⟨name.bytes⟩
    if settings.leavesOut path then some path else none
  | _ => none

/-- A document that stands in a directory. -/
def document? (settings : Settings) (directory : Path) : Name × Entry → Option Path
  | (name, .file _) =>
    let path := directory.join ⟨name.bytes⟩
    if settings.isDocument path then some path else none
  | _ => none

end Discovery

/-- How far a search for documents has come. -/
structure Search where
  /-- The directories that wait; the one that was found last comes next. -/
  pending : List Path := []
  documents : List Path := []
  leftOut : List Path := []
  /-- The directories that cannot be read. -/
  unreadable : List (Path × FileError) := []

namespace Search

/-- Takes in the entries of a directory. -/
def take (settings : Settings) (directory : Path) (entries : List (Name × Entry))
    (search : Search) : Search where
  pending := (entries.filterMap (Discovery.entered? settings directory)).reverse ++ search.pending
  documents := search.documents ++ entries.filterMap (Discovery.document? settings directory)
  leftOut := search.leftOut ++ entries.filterMap (Discovery.leftOut? settings directory)
  unreadable := search.unreadable

/-- Lists the directories that wait, and those found on the way, until none is left. -/
def run (tree : Tree) (settings : Settings) (search : Search) : Search :=
  match _waiting : search.pending with
  | [] => search
  | directory :: rest =>
    match _listed : tree.list directory with
    | .ok entries =>
      run tree settings ({ search with pending := rest }.take settings directory entries)
    | .error error =>
      run tree settings
        { search with pending := rest, unreadable := search.unreadable ++ [(directory, error)] }
termination_by sumOver tree.weight search.pending
decreasing_by
  · obtain ⟨location, entered, isListed⟩ := Tree.exists_of_list _listed
    subst isListed
    have less := Tree.sumOver_weight_lt entered (@Discovery.eq_join_of_entered? settings directory)
    simp only [take, sumOver_append, sumOver_reverse, _waiting, sumOver]
    omega
  · have positive := tree.weight_pos directory
    rw [_waiting, sumOver]
    omega

/-- The finished search below a root. Only the root has to be readable. -/
def below (tree : Tree) (settings : Settings) (root : Path) : Except FileError Search := do
  let entries ← tree.list root
  return (take settings root entries {}).run tree settings

/-- What is noticed about the directories that cannot be read. -/
def notices (search : Search) : List Notice :=
  search.unreadable.map fun (path, error) => .unreadableDirectory path error.message

end Search

/-- What is found below a documentation root. -/
structure Discovery where
  /-- The documents, in order. -/
  documents : List Path
  /-- The directories that are left out and do not stand in one that is. -/
  leftOut : List Path

namespace Discovery

/-- Paths in ascending order. -/
def sorted (paths : List Path) : List Path :=
  paths.mergeSort fun left right => decide (¬ right < left)

/-- What a finished search has found. -/
def ofSearch (search : Search) : Discovery where
  documents := sorted search.documents
  leftOut := sorted search.leftOut

/-- What is found below a root. -/
def ofTree (tree : Tree) (settings : Settings) (root : Path) : Except FileError Discovery :=
  return ofSearch (← Search.below tree settings root)

/-- What is noticed while documents are looked for below `root`. -/
def notices (discovery : Discovery) (root : Path) : List Notice :=
  discovery.leftOut.map .skippedDirectory ++ [.foundFiles discovery.documents.length root]

end Discovery

end DocMarkers
