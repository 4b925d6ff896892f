import DocMarkers.Path.Basic

/-! # File trees

A tree is a table from locations to entries. A location is the row of names that leads to an entry,
read from the entry up to the root; the root is the empty row and is always a directory. Every entry
stands in a directory of the table, and no location has two entries.

All changes of a tree come down to two: `put` sets an entry that is no directory, or makes one, and
`remove` takes away an entry with all that is below it. `find?_put` and `find?_remove` say what they
do.

A name is a row of bytes. A tree stands on a device, which may have no room for the entries that the
tree is to have.
-/

namespace DocMarkers

namespace Name

/-- What a name of an entry has to be: not empty, not one of the two names with a meaning of their
own, and without a slash. -/
def IsProper (bytes : Bytes) : Prop :=
  bytes ≠ [] ∧ bytes ≠ [Path.dot] ∧ bytes ≠ [Path.dot, Path.dot] ∧ Path.slash ∉ bytes

instance : DecidablePred IsProper :=
  fun bytes => inferInstanceAs
    (Decidable (bytes ≠ [] ∧ bytes ≠ [Path.dot] ∧ bytes ≠ [Path.dot, Path.dot] ∧
      Path.slash ∉ bytes))

end Name

/-- The name of an entry in its directory. -/
structure Name where
  bytes : Bytes
  proper : Name.IsProper bytes
  deriving DecidableEq

namespace Name

/-- A name as it is shown. -/
def text (name : Name) : String :=
  Text.shown name.bytes

/-- A name is known by its bytes. -/
theorem eq_of_bytes_eq {left right : Name} (same : left.bytes = right.bytes) : left = right := by
  cases left
  cases same
  rfl

end Name

/-- The names from an entry up to the root. -/
abbrev Location := List Name

/-- What can stand at a location. -/
inductive Entry where
  /-- A regular file with its bytes. -/
  | file (bytes : ByteArray)
  /-- A symbolic link with the path that it stands for. -/
  | link (target : Bytes)
  /-- A directory; its entries stand at locations of their own. -/
  | directory

/-- Whether there is a directory can be told from what was found. -/
instance (found : Option Entry) : Decidable (found = some .directory) :=
  match found with
  | some .directory => .isTrue rfl
  | none => .isFalse (by simp)
  | some (.file _) => .isFalse (by simp)
  | some (.link _) => .isFalse (by simp)

/-- Why something cannot be done with a path. -/
inductive FileError where
  /-- There is no such entry. -/
  | missing
  /-- There is an entry already. -/
  | occupied
  /-- A directory is needed and something else found. -/
  | notADirectory
  /-- A file is needed and a directory found. -/
  | isADirectory
  /-- More symbolic links than are followed. -/
  | tooManyLinks
  /-- A name or the whole path is too long. -/
  | nameTooLong
  /-- The root, or a name that stands for a directory, cannot be replaced. -/
  | busy
  /-- The path of a file to be replaced holds a NUL. -/
  | invalidArgument
  /-- The path holds a NUL. -/
  | holdsNul
  /-- The file is not text in UTF-8. -/
  | notText
  /-- The device is full. -/
  | noSpace
  /-- The share of the user is used up. -/
  | quotaExceeded
  /-- The file would have more bytes than a file can have. -/
  | fileTooLarge
  /-- The device does not work. -/
  | inputOutput
  deriving DecidableEq

/-- The wording of each error. -/
def FileError.message : FileError → String
  | missing => "No such file or directory (os error 2)"
  | occupied => "File exists (os error 17)"
  | notADirectory => "Not a directory (os error 20)"
  | isADirectory => "Is a directory (os error 21)"
  | tooManyLinks => "Too many levels of symbolic links (os error 40)"
  | nameTooLong => "File name too long (os error 36)"
  | busy => "Device or resource busy (os error 16)"
  | invalidArgument => "Invalid argument (os error 22)"
  | holdsNul => "file name contained an unexpected NUL byte"
  | notText => "stream did not contain valid UTF-8"
  | noSpace => "No space left on device (os error 28)"
  | quotaExceeded => "Disk quota exceeded (os error 122)"
  | fileTooLarge => "File too large (os error 27)"
  | inputOutput => "Input/output error (os error 5)"

namespace Tree

/-- A row of a table of entries. -/
abbrev Row := Location × Entry

/-- The entry at a location; the root is a directory without a row. -/
def entryOf? (rows : List Row) : Location → Option Entry
  | [] => some .directory
  | location => rows.lookup location

/-- What a device says to the entries that it is to hold when a file is filled: nothing, or why it
does not take the bytes of the file. -/
abbrev Device := List Row → Option FileError

end Tree

/-- A file system, and the directory in which relative paths start. -/
structure Tree where
  /-- The entries below the root. -/
  rows : List Tree.Row
  workingDirectory : Location
  /-- The device that the tree stands on; it takes everything if nothing else is known of it. -/
  device : Tree.Device := fun _ => none
  /-- No location comes twice. -/
  distinct : rows.Pairwise fun left right => left.1 ≠ right.1
  /-- Every entry stands in a directory. -/
  inside : ∀ row ∈ rows, ∃ name parent,
    row.1 = name :: parent ∧ Tree.entryOf? rows parent = some .directory

namespace Tree

theorem lookup_filter_of_keep (rows : List Row) (keep : Location → Bool) {location : Location}
    (kept : keep location = true) :
    (rows.filter fun row => keep row.1).lookup location = rows.lookup location := by
  induction rows with
  | nil => rfl
  | cons row rest ih =>
    obtain ⟨key, entry⟩ := row
    by_cases same : location = key
    · subst same
      simp [kept]
    · have different : (location == key) = false := beq_eq_false_iff_ne.mpr same
      by_cases keyKept : keep key = true <;> simp [keyKept, List.lookup_cons, different, ih]

theorem lookup_filter_of_not_keep (rows : List Row) (keep : Location → Bool) {location : Location}
    (lost : keep location = false) :
    (rows.filter fun row => keep row.1).lookup location = none := by
  induction rows with
  | nil => rfl
  | cons row rest ih =>
    obtain ⟨key, entry⟩ := row
    by_cases keyKept : keep key = true
    · have different : (location == key) = false := by
        refine beq_eq_false_iff_ne.mpr ?_
        rintro rfl
        simp [lost] at keyKept
      simp [keyKept, List.lookup_cons, different, ih]
    · simp [keyKept, ih]

/-- The entry at a location. -/
def find? (tree : Tree) (location : Location) : Option Entry :=
  entryOf? tree.rows location

/-- The root is a directory. -/
@[simp]
theorem find?_root (tree : Tree) : tree.find? [] = some .directory := rfl

/-- The tree that has nothing but its root. -/
def empty : Tree where
  rows := []
  workingDirectory := []
  distinct := .nil
  inside := by simp

/-- A tree with one more entry in a directory, or with another one in the place of an entry that is
no directory. -/
def put (tree : Tree) (name : Name) (parent : Location) (entry : Entry)
    (within : tree.find? parent = some .directory)
    (replaceable : tree.find? (name :: parent) ≠ some .directory) : Tree where
  rows := (name :: parent, entry) :: tree.rows.filter fun row => decide (row.1 ≠ name :: parent)
  workingDirectory := tree.workingDirectory
  device := tree.device
  distinct := by
    refine List.pairwise_cons.mpr ⟨?_, tree.distinct.filter _⟩
    intro row member
    have different := (List.mem_filter.mp member).2
    exact fun same => of_decide_eq_true different same.symm
  inside := by
    have directory : ∀ location, tree.find? location = some .directory →
        entryOf? ((name :: parent, entry) ::
          tree.rows.filter fun row => decide (row.1 ≠ name :: parent)) location =
            some .directory := by
      intro location found
      cases location with
      | nil => rfl
      | cons first above =>
        have different : first :: above ≠ name :: parent := fun same =>
          replaceable (same ▸ found)
        simp only [entryOf?, List.lookup_cons, beq_eq_false_iff_ne.mpr different]
        rw [lookup_filter_of_keep tree.rows (fun key => decide (key ≠ name :: parent))
          (decide_eq_true different)]
        exact found
    intro row member
    rcases List.mem_cons.mp member with rfl | member
    · exact ⟨name, parent, rfl, directory parent within⟩
    · obtain ⟨first, above, same, found⟩ := tree.inside row (List.mem_filter.mp member).1
      exact ⟨first, above, same, directory above found⟩

/-- Setting an entry changes what is found at its location and nowhere else. -/
theorem find?_put (tree : Tree) (name : Name) (parent : Location) (entry : Entry)
    (within : tree.find? parent = some .directory)
    (replaceable : tree.find? (name :: parent) ≠ some .directory) (location : Location) :
    (tree.put name parent entry within replaceable).find? location =
      if location = name :: parent then some entry else tree.find? location := by
  cases location with
  | nil => simp
  | cons first above =>
    by_cases same : first :: above = name :: parent
    · rw [if_pos same]
      simp [find?, put, entryOf?, same]
    · rw [if_neg same]
      simp only [find?, put, entryOf?, List.lookup_cons, beq_eq_false_iff_ne.mpr same]
      exact lookup_filter_of_keep tree.rows (fun key => decide (key ≠ name :: parent))
        (decide_eq_true same)

/-- Whether one location is the other or lies below it. -/
def isWithin (above location : Location) : Bool :=
  above.isSuffixOf location

/-- A tree without an entry and all that is below it. The root stays. -/
def remove (tree : Tree) (location : Location) : Tree where
  rows := tree.rows.filter fun row => !isWithin location row.1
  workingDirectory := tree.workingDirectory
  device := tree.device
  distinct := tree.distinct.filter _
  inside := by
    intro row member
    obtain ⟨member, outside⟩ := List.mem_filter.mp member
    obtain ⟨name, parent, same, found⟩ := tree.inside row member
    refine ⟨name, parent, same, ?_⟩
    cases parent with
    | nil => rfl
    | cons first above =>
      have parentOutside : (!isWithin location (first :: above)) = true := by
        simp only [isWithin, Bool.not_eq_true', ← Bool.not_eq_true, List.isSuffixOf_iff_suffix,
          same] at outside ⊢
        exact fun suffix => outside (suffix.trans (List.suffix_cons _ _))
      simp only [entryOf?]
      rw [lookup_filter_of_keep tree.rows (fun key => !isWithin location key) parentOutside]
      exact found

/-- Removing takes away the entries at a location and below it, and no other. -/
theorem find?_remove (tree : Tree) (location : Location) (name : Name) (parent : Location) :
    (tree.remove location).find? (name :: parent) =
      if isWithin location (name :: parent) then none else tree.find? (name :: parent) := by
  simp only [find?, remove, entryOf?]
  by_cases within : isWithin location (name :: parent) = true
  · rw [if_pos within]
    exact lookup_filter_of_not_keep tree.rows (fun key => !isWithin location key) (by simp [within])
  · rw [if_neg within]
    exact lookup_filter_of_keep tree.rows (fun key => !isWithin location key) (by simp [within])

end Tree

end DocMarkers
