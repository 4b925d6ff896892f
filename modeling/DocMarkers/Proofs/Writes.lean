import DocMarkers.Project.Write
import DocMarkers.Proofs.DocumentPaths
import DocMarkers.Proofs.PlainPaths

/-! # Writing a document

A document is written as a whole (`Tree.exists_replace_of_writeDocument`) or not at all. Making the
directory for it may add directories, also when that fails, and a temporary file is gone in the end;
but no file and no link changes other than the document (`Tree.HasWritten`).

Documents that are written one after the other stay written, if they are at different places
(`Tree.HasWritten.append`).
-/

namespace DocMarkers

/-- The failures that can end the rendering of documents, none of which lies outside the root. -/
inductive Failure.EndsRendering : Failure → Prop where
  | config (error : ConfigError) : EndsRendering (.config error)
  | notADirectory (root : Path) : EndsRendering (.notADirectory root)
  | unreadableRoot (root : Path) (error : FileError) : EndsRendering (.unreadableRoot root error)
  | noClient : EndsRendering .noClient
  | directoryNotMade (path : Path) (error : FileError) :
      EndsRendering (.directoryNotMade path error)
  | temporaryNotMade (directory : Path) (error : FileError) :
      EndsRendering (.temporaryNotMade directory error)
  | temporaryNotFilled (path : Path) (error : FileError) :
      EndsRendering (.temporaryNotFilled path error)
  | documentNotReplaced (path : Path) (error : FileError) :
      EndsRendering (.documentNotReplaced path error)

namespace Failure.EndsRendering

variable {failure : Failure}

theorem code_eq (ends : failure.EndsRendering) : failure.code = 1 := by
  cases ends <;> rfl

end Failure.EndsRendering

namespace Tree

/-- A tree has all that another one has, and besides only directories. -/
structure Extends (before after : Tree) : Prop where
  workingDirectory : after.workingDirectory = before.workingDirectory
  entries : ∀ location, after.find? location = before.find? location ∨
    before.find? location = none ∧ after.find? location = some .directory

namespace Extends

variable {before middle after : Tree} {location : Location} {entry : Entry}

theorem refl (tree : Tree) : Extends tree tree :=
  ⟨rfl, fun _ => .inl rfl⟩

theorem trans (first : Extends before middle) (second : Extends middle after) :
    Extends before after := by
  refine ⟨second.workingDirectory.trans first.workingDirectory, ?_⟩
  intro location
  rcases second.entries location with same | ⟨free, made⟩
  · rw [same]
    exact first.entries location
  · rcases first.entries location with same | ⟨-, other⟩
    · exact .inr ⟨same ▸ free, made⟩
    · cases free.symm.trans other

theorem kept (grows : Extends before after) (found : before.find? location = some entry) :
    after.find? location = some entry := by
  rcases grows.entries location with same | ⟨free, -⟩
  · exact same.trans found
  · cases free.symm.trans found

theorem find?_iff (grows : Extends before after) (other : entry ≠ .directory) :
    after.find? location = some entry ↔ before.find? location = some entry := by
  constructor
  · intro found
    rcases grows.entries location with same | ⟨-, made⟩
    · exact same.symm.trans found
    · rw [made] at found
      exact absurd (Option.some.inj found).symm other
  · exact grows.kept

end Extends

section Directories

variable {tree after : Tree} {path : Path}

theorem extends_of_makeDirectory (made : tree.makeDirectory path = .ok after) :
    Extends tree after := by
  unfold makeDirectory at made
  split at made
  · cases made
  · next parent within name approached =>
    split at made
    · cases made
    · split at made
      · next free =>
        obtain rfl := Except.ok.inj made
        refine ⟨rfl, ?_⟩
        intro location
        by_cases same : location = name :: parent
        · subst same
          exact .inr ⟨free, by simp [find?_put]⟩
        · left
          simp [find?_put, same]
      · cases made
  · cases made

/-- Whatever becomes of making directories, nothing else changes. -/
theorem extends_ensureFirst (tree : Tree) (paths : List Path) :
    Extends tree (tree.ensureFirst paths).2 := by
  induction paths with
  | nil => exact .refl tree
  | cons path above ih =>
      unfold ensureFirst
      split
      · exact .refl tree
      · split
        · next made isMade => exact extends_of_makeDirectory isMade
        · split
          · next climbed =>
            rw [climbed] at ih
            exact ih
          · next climbed =>
            rw [climbed] at ih
            split
            · next made isMade => exact ih.trans (extends_of_makeDirectory isMade)
            · exact ih
        · exact .refl tree

theorem extends_ensureDirectory (tree : Tree) (path : Path) :
    Extends tree (tree.ensureDirectory path).2 :=
  extends_ensureFirst tree _

end Directories

/-- Nothing is below a free location. -/
theorem find?_of_isWithin {tree : Tree} {above location : Location}
    (free : tree.find? above = none) (within : isWithin above location = true) :
    tree.find? location = none := by
  obtain ⟨front, rfl⟩ := List.isSuffixOf_iff_suffix.mp within
  induction front with
  | nil => exact free
  | cons name front ih =>
      cases found : tree.find? (name :: front ++ above) with
      | none => rfl
      | some entry =>
          have free : tree.find? (front ++ above) = none := ih (by simp [isWithin])
          cases free.symm.trans (find?_parent found)

/-- A tree has one more file, at a location that was free. -/
structure IsStaged (tree : Tree) (temporary : Location) (bytes : ByteArray) (staged : Tree) :
    Prop where
  workingDirectory : staged.workingDirectory = tree.workingDirectory
  free : tree.find? temporary = none
  entries : ∀ location, staged.find? location =
    if location = temporary then some (.file bytes) else tree.find? location

namespace IsStaged

variable {tree staged : Tree} {temporary location here : Location} {bytes : ByteArray}
  {entry : Entry} {steps : List Step} {links left : Nat} {path : Path}

/-- What is there stays. -/
theorem kept (isStaged : IsStaged tree temporary bytes staged)
    (found : tree.find? location = some entry) : staged.find? location = some entry := by
  have different : location ≠ temporary := by
    intro same
    cases isStaged.free.symm.trans (same ▸ found)
  rw [isStaged.entries, if_neg different, found]

/-- No directory and no link is new. -/
theorem find?_iff (isStaged : IsStaged tree temporary bytes staged)
    (other : ∀ own, entry ≠ .file own) :
    staged.find? location = some entry ↔ tree.find? location = some entry := by
  constructor
  · intro found
    rw [isStaged.entries] at found
    split at found
    · exact absurd (Option.some.inj found).symm (other bytes)
    · exact found
  · exact isStaged.kept

theorem not_link (isStaged : IsStaged tree temporary bytes staged)
    (plain : ∀ target, tree.find? location ≠ some (.link target)) (target : Bytes) :
    staged.find? location ≠ some (.link target) := by
  rw [ne_eq, isStaged.find?_iff fun _ => Entry.noConfusion]
  exact plain target

/-- A walk goes where it went. -/
theorem walks (isStaged : IsStaged tree temporary bytes staged)
    (walks : tree.Walks links here steps left location entry) :
    staged.Walks links here steps left location entry := by
  induction walks with
  | nil found => exact .nil (isStaged.kept found)
  | step inside short plain _ ih =>
      exact .step (isStaged.kept inside) short (isStaged.not_link plain) ih
  | link inside short isLink _ ih =>
      exact .link (isStaged.kept inside) short (isStaged.kept isLink) ih

/-- Taking the file away again leaves the tree as it was. -/
theorem extends_remove (isStaged : IsStaged tree temporary bytes staged) :
    Extends tree (staged.remove temporary) := by
  refine ⟨isStaged.workingDirectory, ?_⟩
  intro location
  left
  cases location with
  | nil => rfl
  | cons name parent =>
      rw [find?_remove]
      by_cases within : isWithin temporary (name :: parent) = true
      · rw [if_pos within, find?_of_isWithin isStaged.free within]
      · have different : name :: parent ≠ temporary := by
          intro same
          exact within (by simp [isWithin, same])
        rw [if_neg within, isStaged.entries, if_neg different]

end IsStaged

section Temporary

variable {tree staged : Tree} {directory path : Path} {bytes : ByteArray}

theorem exists_isStaged_of_makeFile {parent : Directory tree} {names : List Name}
    (made : tree.makeFile directory parent bytes names = .ok (path, staged)) :
    ∃ name : Name, path = directory.join ⟨name.bytes⟩ ∧ byteFault? path = none ∧
      IsStaged tree (name :: parent.val) bytes staged := by
  induction names with
  | nil => cases made
  | cons name others ih =>
      unfold makeFile at made
      split at made
      · cases made
      · next sound =>
        split at made
        · next free =>
          obtain ⟨rfl, rfl⟩ := Prod.mk.inj (Except.ok.inj made)
          exact ⟨name, rfl, sound, rfl, free, find?_put _ _ _ _ _ _⟩
        · exact ih made

/-- A temporary file is at the end of its path: there it is taken away again, and from there it is
moved. -/
theorem exists_isStaged_of_makeTemporary
    (made : tree.makeTemporary directory bytes = .ok (path, staged)) :
    ∃ temporary, IsStaged tree temporary bytes staged ∧
      staged.without path = staged.remove temporary ∧
      ∀ target, staged.moveFile path target =
        if target.bytes.contains 0 then .error .invalidArgument
        else (staged.remove temporary).replace target (.file bytes) := by
  unfold makeTemporary at made
  split at made
  · cases made
  · next location within arrived =>
    obtain ⟨name, rfl, sound, isStaged⟩ := exists_isStaged_of_makeFile made
    have entered : tree.directory directory = .ok location := by
      unfold Tree.directory locate
      rw [arrived]
      rfl
    have stillEntered : staged.directory directory = .ok location := by
      rw [directory_eq_ok_iff, isStaged.workingDirectory]
      obtain ⟨isSound, left, walks⟩ := directory_eq_ok_iff.mp entered
      exact ⟨isSound, left, isStaged.walks walks⟩
    obtain ⟨inside, approached⟩ := exists_approach_join stillEntered sound
    have found : staged.find? (name :: location) = some (.file bytes) := by
      rw [isStaged.entries, if_pos rfl]
    refine ⟨name :: location, isStaged, ?_, ?_⟩
    · unfold without removeEntry
      rw [approached]
      simp [found, Except.toOption]
    · intro target
      unfold moveFile
      rw [approached]
      simp only [found]
  · cases made
  · cases made

end Temporary

/-- What writing documents has left behind: each one stands complete at the place of its path, and
there is no other change but new directories. -/
structure HasWritten (before after : Tree) (writes : List (Path × String)) : Prop where
  workingDirectory : after.workingDirectory = before.workingDirectory
  /-- Each document holds its text. -/
  complete : ∀ write ∈ writes,
    after.locate write.1 = .ok (before.placeOf write.1, .file write.2.toUTF8)
  /-- Every other file and every link is as it was. -/
  untouched : ∀ location, (∀ write ∈ writes, before.placeOf write.1 ≠ location) →
    ∀ entry, entry ≠ .directory →
      (after.find? location = some entry ↔ before.find? location = some entry)
  /-- No directory is gone. -/
  directories : ∀ location, before.find? location = some .directory →
    after.find? location = some .directory

theorem placeOf_eq {before after : Tree}
    (same : after.workingDirectory = before.workingDirectory) (path : Path) :
    after.placeOf path = before.placeOf path := by
  unfold placeOf
  rw [same]

namespace HasWritten

variable {before middle after : Tree} {writes first second : List (Path × String)} {path : Path}

theorem hasPlainPath (written : HasWritten before after writes) (plain : before.HasPlainPath path) :
    after.HasPlainPath path := by
  unfold HasPlainPath
  rw [written.workingDirectory]
  apply plain.of_links
  intro location target found
  apply (written.untouched location ?_ _ (by simp)).mp found
  intro write member same
  have document := find?_of_locate (written.complete write member)
  rw [same, found] at document
  cases document

/-- What was written stays when other documents are written at other places. -/
theorem append (one : HasWritten before middle first) (two : HasWritten middle after second)
    (plain : ∀ write ∈ first, before.HasPlainPath write.1)
    (apart : ∀ write ∈ first, ∀ other ∈ second,
      before.placeOf other.1 ≠ before.placeOf write.1) :
    HasWritten before after (first ++ second) where
  workingDirectory := two.workingDirectory.trans one.workingDirectory
  complete := by
    intro write member
    rcases List.mem_append.mp member with early | late
    · -- The later writes leave the document alone, and every directory on the way to it.
      have located := one.complete write early
      have middlePlain := one.hasPlainPath (plain write early)
      have found : after.find? (before.placeOf write.1) = some (.file write.2.toUTF8) := by
        apply (two.untouched _ ?_ _ (by simp)).mpr (find?_of_locate located)
        intro other inside
        rw [placeOf_eq one.workingDirectory]
        exact apart write early other inside
      exact locate_of_kept middlePlain (two.hasPlainPath middlePlain) two.workingDirectory
        two.directories located found
    · rw [← placeOf_eq one.workingDirectory]
      exact two.complete write late
  untouched := by
    intro location elsewhere entry other
    obtain ⟨early, late⟩ := List.forall_mem_append.mp elsewhere
    rw [two.untouched location ?_ entry other, one.untouched location early entry other]
    intro write member
    rw [placeOf_eq one.workingDirectory]
    exact late write member
  directories := fun location found => two.directories location (one.directories location found)

end HasWritten

section Documents

variable {tree left written : Tree} {path : Path} {text : String} {failure : Failure}

/-- A document that cannot be written changes nothing but directories. -/
theorem extends_of_writeDocument (fails : tree.writeDocument path text = (.error failure, left)) :
    Extends tree left ∧ failure.EndsRendering := by
  have grows := extends_ensureDirectory tree (directoryOf path)
  unfold writeDocument at fails
  split at fails
  · next prepared =>
    rw [prepared] at grows
    cases fails
    exact ⟨grows, .directoryNotMade _ _⟩
  · next ready prepared =>
    rw [prepared] at grows
    split at fails
    · cases fails
      exact ⟨grows, .temporaryNotMade _ _⟩
    · next temporary staged made =>
      obtain ⟨place, isStaged, away, -⟩ := exists_isStaged_of_makeTemporary made
      rw [away] at fails
      split at fails
      · cases fails
        exact ⟨grows.trans isStaged.extends_remove, .temporaryNotFilled _ _⟩
      · split at fails
        · cases fails
          exact ⟨grows.trans isStaged.extends_remove, .documentNotReplaced _ _⟩
        · cases fails

/-- A document that is written replaces what was at its path, in a tree that has nothing else but
more directories. -/
theorem exists_replace_of_writeDocument
    (succeeds : tree.writeDocument path text = (.ok (), written)) :
    ∃ cleared, Extends tree cleared ∧ cleared.replace path (.file text.toUTF8) = .ok written := by
  have grows := extends_ensureDirectory tree (directoryOf path)
  unfold writeDocument at succeeds
  split at succeeds
  · cases succeeds
  · next ready prepared =>
    rw [prepared] at grows
    split at succeeds
    · cases succeeds
    · next temporary staged made =>
      split at succeeds
      · cases succeeds
      · split at succeeds
        · cases succeeds
        · next moved =>
          obtain ⟨-, rfl⟩ := Prod.mk.inj succeeds
          -- The document is moved in a tree that has no temporary file any more.
          obtain ⟨place, isStaged, -, moves⟩ := exists_isStaged_of_makeTemporary made
          refine ⟨_, grows.trans isStaged.extends_remove, ?_⟩
          rw [moves] at moved
          split at moved
          · cases moved
          · exact moved

end Documents

end Tree

end DocMarkers
