import DocMarkers.Tree.Read

/-! # Changing a tree

`writeFile` and `fillFile` act on the file that a path leads to, through symbolic links. The other
changes act on the last entry of the path itself, so that a link is replaced and not followed.

No change ever turns a directory into something else.
-/

namespace DocMarkers

namespace Name

/-- A letter for a number; the letters repeat. -/
def letter (number : Nat) : UInt8 :=
  (0x61 + number % 26).toUInt8

theorem letter_ne_slash (number : Nat) : letter number ≠ Path.slash := by
  have letters : ∀ rest < 26, (0x61 + rest).toUInt8 ≠ Path.slash := by decide
  exact letters _ (Nat.mod_lt _ (by decide))

/-- As many letters for a number. -/
def letters (number : Nat) : (count : Nat) → Bytes
  | 0 => []
  | count + 1 => letter number :: letters (number / 26) count

theorem slash_not_mem_letters (number count : Nat) : Path.slash ∉ letters number count := by
  induction count generalizing number with
  | zero => exact List.not_mem_nil
  | succ count ih =>
      have first := (letter_ne_slash number).symm
      simp [letters, first, ih]

/-- What the names of temporary files start with. -/
def temporaryStart : Bytes := Text.utf8 ".tmp"

/-- The names of temporary files: six letters for a number, behind a fixed beginning. -/
def temporary (number : Nat) : Name where
  bytes := temporaryStart ++ letters number 6
  proper := by
    have start : temporaryStart = [Path.dot, 0x74, 0x6D, 0x70] := by decide +kernel
    have noSlash : Path.slash ∉ [Path.dot, 0x74, 0x6D, 0x70] := by decide
    rw [start]
    refine ⟨List.cons_ne_nil _ _, ?_, ?_, List.not_mem_append noSlash (slash_not_mem_letters _ _)⟩
    · exact fun same => List.cons_ne_nil _ _ (List.cons.inj same).2
    · exact fun same => List.cons_ne_nil _ _ (List.cons.inj (List.cons.inj same).2).2

end Name

namespace Tree

/-- Every entry stands in a directory. -/
theorem find?_parent {tree : Tree} {name : Name} {parent : Location} {entry : Entry}
    (found : tree.find? (name :: parent) = some entry) :
    tree.find? parent = some .directory := by
  obtain ⟨before, after, same, -⟩ := List.lookup_eq_some_iff.mp
    (show tree.rows.lookup (name :: parent) = some entry from found)
  have member : (name :: parent, entry) ∈ tree.rows := by simp [same]
  obtain ⟨name', parent', equal, within⟩ := tree.inside _ member
  obtain ⟨rfl, rfl⟩ := List.cons.inj equal
  exact within

/-- Makes one directory. -/
def makeDirectory (tree : Tree) (path : Path) : Except FileError Tree :=
  match tree.approach path with
  | .error fault => .error fault
  | .ok (⟨parent, within⟩, .into name) =>
    if name.isTooLong then .error .nameTooLong
    else
      match free : tree.find? (name :: parent) with
      | none => .ok (tree.put name parent .directory within (by simp [free]))
      | some _ => .error .occupied
  | .ok _ => .error .occupied

/-- Makes the first of some paths a directory, where the others are those above it. It climbs to the
first one that is there or can be made, and makes the rest on the way down. What it has made stays,
also when it fails later. -/
def ensureFirst (tree : Tree) : List Path → Except FileError Unit × Tree
  | [] => (.ok (), tree)
  | path :: above =>
    if path.bytes.isEmpty then (.ok (), tree)
    else
      match tree.makeDirectory path with
      | .ok made => (.ok (), made)
      | .error .missing =>
        match tree.ensureFirst above with
        | (.error fault, climbed) => (.error fault, climbed)
        | (.ok (), climbed) =>
          match climbed.makeDirectory path with
          | .ok made => (.ok (), made)
          | .error fault =>
            (if climbed.isDirectory path then .ok () else .error fault, climbed)
      | .error fault => (if tree.isDirectory path then .ok () else .error fault, tree)

/-- Makes a directory and those above it, as far as they are not there. -/
def ensureDirectory (tree : Tree) (path : Path) : Except FileError Unit × Tree :=
  tree.ensureFirst (path :: path.ancestors)

/-- Writes the file that a path leads to, or makes it. -/
def writeFile (tree : Tree) (path : Path) (bytes : ByteArray) : Except FileError Tree :=
  match tree.arrive true path with
  | .error fault => .error fault
  | .ok (.vacant name parent within free) =>
    .ok (tree.put name parent (.file bytes) within (by simp [free]))
  | .ok (.entry (name :: parent) (.file _) found) =>
    .ok (tree.put name parent (.file bytes) (find?_parent found) (by simp [found]))
  | .ok (.entry ..) => .error .isADirectory

/-- Puts an entry at the end of a path, in the place of anything but a directory. -/
def replace (tree : Tree) (path : Path) (entry : Entry) : Except FileError Tree :=
  match tree.approach path with
  | .error fault => .error fault
  | .ok (⟨parent, within⟩, .into name) =>
    if name.isTooLong then .error .nameTooLong
    else if path.bytes.getLast? = some Path.slash then .error .notADirectory
    else if directory : tree.find? (name :: parent) = some .directory then .error .isADirectory
    else .ok (tree.put name parent entry within directory)
  | .ok _ => .error .busy

/-- Makes a file in a directory, under the first of some names that is free, and tells its path. -/
def makeFile (tree : Tree) (directory : Path) (parent : Directory tree) (bytes : ByteArray) :
    List Name → Except FileError (Path × Tree)
  | [] => .error .occupied
  | name :: others =>
    match byteFault? (directory.join ⟨name.bytes⟩) with
    | some fault => .error fault
    | none =>
      match free : tree.find? (name :: parent.val) with
      | none =>
        .ok (directory.join ⟨name.bytes⟩,
          tree.put name parent.val (.file bytes) parent.property (by simp [free]))
      | some _ => tree.makeFile directory parent bytes others

/-- Makes a temporary file in a directory, and tells its path. -/
def makeTemporary (tree : Tree) (directory : Path) (bytes : ByteArray) :
    Except FileError (Path × Tree) :=
  match tree.arrive false directory with
  | .error fault => .error fault
  | .ok (.entry location .directory within) =>
    tree.makeFile directory ⟨location, within⟩ bytes
      ((List.range (tree.rows.length + 1)).map Name.temporary)
  | .ok (.entry ..) => .error .notADirectory
  | .ok (.vacant ..) => .error .missing

/-- Moves a file from the end of one path to the end of another, in one step and in the place of
anything but a directory. -/
def moveFile (tree : Tree) (source path : Path) : Except FileError Tree :=
  if path.bytes.contains 0 then .error .invalidArgument
  else
    match tree.approach source with
    | .error fault => .error fault
    | .ok (⟨parent, _⟩, .into name) =>
      match tree.find? (name :: parent) with
      | some (.file bytes) => (tree.remove (name :: parent)).replace path (.file bytes)
      | _ => .error .missing
    | .ok _ => .error .busy

/-- Puts a symbolic link at the end of a path. -/
def placeLink (tree : Tree) (path : Path) (target : Bytes) : Except FileError Tree :=
  tree.replace path (.link target)

/-- Takes away the entry at the end of a path, with all that is below it. -/
def removeEntry (tree : Tree) (path : Path) : Except FileError Tree :=
  match tree.approach path with
  | .error fault => .error fault
  | .ok (⟨parent, _⟩, .into name) =>
    if (tree.find? (name :: parent)).isSome then .ok (tree.remove (name :: parent))
    else .error .missing
  | .ok _ => .error .busy

/-- A tree without the entry at the end of a path, or as it is if the entry cannot be taken away. -/
def without (tree : Tree) (path : Path) : Tree :=
  (tree.removeEntry path).toOption.getD tree

/-- Why the device does not hold a tree, if it does not. -/
def shortage? (tree : Tree) : Option FileError :=
  tree.device tree.rows

/-- Writes the file that a path leads to, or makes it. A file whose bytes the device does not take
is left empty. -/
def fillFile (tree : Tree) (path : Path) (bytes : ByteArray) : Except FileError Unit × Tree :=
  match tree.writeFile path bytes with
  | .error fault => (.error fault, tree)
  | .ok filled =>
    match filled.shortage? with
    | none => (.ok (), filled)
    | some fault => (.error fault, (tree.writeFile path .empty).toOption.getD tree)

/-- A file is filled when it can be written and the device holds it. -/
theorem fillFile_eq_ok_iff {tree filled : Tree} {path : Path} {bytes : ByteArray} :
    tree.fillFile path bytes = (.ok (), filled) ↔
      tree.writeFile path bytes = .ok filled ∧ filled.shortage? = none := by
  unfold fillFile
  cases tree.writeFile path bytes with
  | error fault => simp
  | ok written =>
      dsimp only
      constructor
      · intro filled
        split at filled
        · next room =>
          obtain rfl := (Prod.mk.inj filled).2
          exact ⟨rfl, room⟩
        · cases filled
      · rintro ⟨same, room⟩
        obtain rfl := Except.ok.inj same
        rw [room]

end Tree

end DocMarkers
