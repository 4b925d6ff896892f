import DocMarkers.Proofs.Descents
import DocMarkers.Proofs.FirstAppearance
import DocMarkers.Proofs.Writes

/-! # Files that are made

Writing to a path that leads nowhere makes a file at a place that was free, at the end of the path
or of a link (`Tree.exists_isStaged_of_writeFile`). Everything that could be reached before is
reached as before, and nothing can be reached now but the file (`Tree.IsStaged.walks_of_walks`). So
the search for documents finds what it found, and at most one document more
(`Tree.IsStaged.documents_cases`).
-/

namespace DocMarkers

namespace Tree

namespace IsStaged

variable {before after : Tree} {place here location : Location} {bytes : ByteArray} {entry : Entry}
  {steps : List Step} {links left : Nat} {path : Path}

/-- A walk to anything but the new file is an old one. -/
theorem walks_of_walks (isStaged : IsStaged before place bytes after)
    (other : ∀ own, entry ≠ .file own) (walks : after.Walks links here steps left location entry) :
    before.Walks links here steps left location entry := by
  induction walks with
  | nil found => exact .nil ((isStaged.find?_iff other).mp found)
  | step inside short plain _ ih =>
      refine .step ((isStaged.find?_iff fun _ => Entry.noConfusion).mp inside) short ?_ (ih other)
      intro target isLink
      exact plain target (isStaged.kept isLink)
  | link inside short isLink _ ih =>
      exact .link ((isStaged.find?_iff fun _ => Entry.noConfusion).mp inside) short
        ((isStaged.find?_iff fun _ => Entry.noConfusion).mp isLink) (ih other)

theorem directory_iff (isStaged : IsStaged before place bytes after) :
    after.directory path = .ok location ↔ before.directory path = .ok location := by
  rw [directory_eq_ok_iff, directory_eq_ok_iff, isStaged.workingDirectory]
  refine and_congr_right fun _ => exists_congr fun left => ?_
  exact ⟨isStaged.walks_of_walks fun _ => Entry.noConfusion, isStaged.walks⟩

theorem isDirectory_eq (isStaged : IsStaged before place bytes after) (path : Path) :
    after.isDirectory path = before.isDirectory path := by
  rw [Bool.eq_iff_iff, isDirectory_iff, isDirectory_iff]
  exact exists_congr fun location => isStaged.directory_iff

/-- A file that stands in a directory is looked up as before. -/
theorem locate_join (isStaged : IsStaged before place bytes after) {name : Name}
    (entered : before.directory path = .ok location)
    (found : before.find? (name :: location) = some entry) (real : ∀ target, entry ≠ .link target) :
    after.locate (path.join ⟨name.bytes⟩) = before.locate (path.join ⟨name.bytes⟩) := by
  have plain (target : Bytes) : before.find? (name :: location) ≠ some (.link target) := by
    intro isLink
    exact real target (Option.some.inj (found.symm.trans isLink))
  rw [Tree.locate_join entered plain, Tree.locate_join (isStaged.directory_iff.mpr entered)
    (isStaged.not_link plain), found, isStaged.kept found]

end IsStaged

section Write

variable {tree after : Tree} {name : Name} {parent here : Location} {bytes : ByteArray}
  {makesFile : Bool} {links : Nat} {steps : List Step} {path : Path}
  {within : tree.find? parent = some .directory} {free : tree.find? (name :: parent) = none}

/-- A walk that ends at a free name leads to the file that is made there. -/
theorem IsStaged.exists_walks_of_vacant (isStaged : IsStaged tree (name :: parent) bytes after)
    (walks : tree.walk makesFile links here steps = .ok (.vacant name parent within free)) :
    ∃ left, after.Walks links here steps left (name :: parent) (.file bytes) := by
  have idle {here : Location} (inside : tree.find? here = some .directory) (target : Bytes) :
      after.find? here ≠ some (.link target) := by
    rw [isStaged.kept inside]
    exact nofun
  fun_induction tree.walk makesFile links here steps with
  | case4 links here rest inside ih =>
      obtain ⟨left, later⟩ := ih walks
      exact ⟨left, .step (isStaged.kept inside) rfl (idle inside) later⟩
  | case5 links here rest inside ih =>
      obtain ⟨left, later⟩ := ih walks
      exact ⟨left, .step (isStaged.kept inside) rfl (idle inside) later⟩
  | case6 links here rest inside ih =>
      obtain ⟨left, later⟩ := ih walks
      exact ⟨left, .step (isStaged.kept inside) rfl (idle (find?_tail inside)) later⟩
  | case9 links here rest inside other _ short isFree last =>
      obtain ⟨rfl, rfl⟩ := Arrival.vacant.inj (Except.ok.inj walks)
      obtain rfl := List.isEmpty_iff.mp last
      have made : after.find? (other :: here) = some (.file bytes) := by
        rw [isStaged.entries, if_pos rfl]
      refine ⟨links, .step (isStaged.kept inside) (by simpa [Step.isShort] using short) ?_
        (.nil made)⟩
      intro target isLink
      cases made.symm.trans isLink
  | case12 here rest inside name _ short target isLink links start ih =>
      obtain ⟨left, later⟩ := ih walks
      exact ⟨left, .link (isStaged.kept inside) (Bool.not_eq_true _ ▸ short) (isStaged.kept isLink)
        later⟩
  | case13 links here rest inside name _ short between real isThere ih =>
      obtain ⟨left, later⟩ := ih walks
      refine ⟨left, .step (isStaged.kept inside) (by simpa [Step.isShort] using short) ?_ later⟩
      apply isStaged.not_link
      intro target isLink
      exact real target (Option.some.inj (isThere.symm.trans isLink))
  | case1 | case2 | case3 | case7 | case8 | case10 | case11 | case14 => cases walks

/-- Writing to a path that leads nowhere makes a file, and the path leads to it. -/
theorem exists_isStaged_of_writeFile (absent : tree.isPresent path = false)
    (written : tree.writeFile path bytes = .ok after) :
    ∃ place, IsStaged tree place bytes after ∧ after.locate path = .ok (place, .file bytes) := by
  unfold writeFile arrive at written
  cases fault : byteFault? path with
  | some fault =>
      rw [fault] at written
      cases written
  | none =>
      rw [fault] at written
      dsimp only at written
      cases walks : tree.walk true linkLimit (startOf tree.workingDirectory path)
        (Step.ofBytes path.bytes) with
      | error error =>
          rw [walks] at written
          cases written
      | ok arrival =>
          rw [walks] at written
          cases arrival with
          | vacant name parent within free =>
              obtain rfl := Except.ok.inj written
              have isStaged : IsStaged tree (name :: parent) bytes
                  (tree.put name parent (.file bytes) within (by simp [free])) :=
                ⟨rfl, free, find?_put tree name parent _ within _⟩
              have leads := isStaged.exists_walks_of_vacant walks
              exact ⟨_, isStaged, locate_eq_ok_iff_walks.mpr ⟨fault, leads⟩⟩
          | entry location own found =>
              have located := locate_eq_ok_iff_walks.mpr ⟨fault, Walks.exists_of_walk walks⟩
              unfold isPresent at absent
              rw [located] at absent
              cases absent

end Write

namespace IsStaged

open Discovery Search

variable {before after : Tree} {place above : Location} {bytes : ByteArray} {settings : Settings}
  {root directory document : Path} {names : List Name}

/-- Every document is found again. -/
theorem finds (isStaged : IsStaged before place bytes after)
    (finds : Finds before settings directory document) :
    Finds after settings directory document := by
  induction finds with
  | here listed member =>
      obtain ⟨location, entered, rfl⟩ := exists_of_list listed
      obtain ⟨name, own, isPath, isFile, isDocument⟩ := mem_filterMap_document?_iff.mp member
      apply Finds.here (list_of_directory (isStaged.directory_iff.mpr entered))
      exact mem_filterMap_document?_iff.mpr
        ⟨name, own, isPath, isStaged.kept isFile, isDocument⟩
  | further listed member _ ih =>
      obtain ⟨location, entered, rfl⟩ := exists_of_list listed
      obtain ⟨name, isPath, isDirectory, visible⟩ := mem_filterMap_entered?_iff.mp member
      apply Finds.further (list_of_directory (isStaged.directory_iff.mpr entered)) _ ih
      exact mem_filterMap_entered?_iff.mpr
        ⟨name, isPath, isStaged.kept isDirectory, visible⟩

/-- What is found was found before, or is the new file. -/
theorem finds_cases (isStaged : IsStaged before place bytes after)
    (finds : Finds after settings directory document)
    (entered : after.directory directory = .ok above) :
    Finds before settings directory document ∨
      ∃ names, document = pathBelow directory names ∧ names.reverse ++ above = place := by
  induction finds generalizing above with
  | @here directory document entries listed member =>
      obtain ⟨location, isThere, rfl⟩ := exists_of_list listed
      obtain rfl := Except.ok.inj (entered.symm.trans isThere)
      obtain ⟨name, own, isPath, isFile, isDocument⟩ := mem_filterMap_document?_iff.mp member
      by_cases isNew : name :: above = place
      · exact .inr ⟨[name], isPath, isNew⟩
      · rw [isStaged.entries, if_neg isNew] at isFile
        left
        apply Finds.here (list_of_directory (isStaged.directory_iff.mp entered))
        exact mem_filterMap_document?_iff.mpr ⟨name, own, isPath, isFile, isDocument⟩
  | @further directory subdirectory document entries listed member later ih =>
      obtain ⟨location, isThere, rfl⟩ := exists_of_list listed
      obtain rfl := Except.ok.inj (entered.symm.trans isThere)
      obtain ⟨name, rfl, isDirectory, visible⟩ := mem_filterMap_entered?_iff.mp member
      obtain ⟨entries, inside⟩ := later.exists_list
      obtain ⟨location, joined, -⟩ := exists_of_list inside
      obtain rfl := location_of_join entered isDirectory joined
      rcases ih joined with found | ⟨names, isPath, isNew⟩
      · left
        apply Finds.further (list_of_directory (isStaged.directory_iff.mp entered)) _ found
        refine mem_filterMap_entered?_iff.mpr ⟨name, rfl, ?_, visible⟩
        exact (isStaged.find?_iff fun _ => Entry.noConfusion).mp isDirectory
      · right
        refine ⟨name :: names, isPath, ?_⟩
        rw [List.reverse_cons, List.append_assoc]
        exact isNew

/-- Every document that was found is looked up as before. -/
theorem locate_of_finds (isStaged : IsStaged before place bytes after)
    (finds : Finds before settings root document) :
    after.locate document = before.locate document := by
  obtain ⟨entries, listed⟩ := finds.exists_list
  obtain ⟨above, entered, -⟩ := exists_of_list listed
  obtain ⟨directories, name, own, rfl, isRead, -, isFile, -⟩ := exists_names_of_finds finds entered
  have joined : pathBelow root (directories ++ [name]) =
      (pathBelow root directories).join ⟨name.bytes⟩ := List.foldl_append
  rw [joined]
  exact isStaged.locate_join isRead isFile fun _ => Entry.noConfusion

/-- A new document that can be read holds what the file was made with. -/
theorem eq_of_readText {text other : String} (isStaged : IsStaged before place text.toUTF8 after)
    (finds : Finds after settings root (pathBelow root names))
    (entered : after.directory root = .ok above) (isNew : names.reverse ++ above = place)
    (isText : after.readText (pathBelow root names) = .ok other) : other = text := by
  obtain ⟨directories, name, own, path, isRead, -, isFile, -⟩ :=
    exists_names_of_finds finds entered
  obtain rfl := eq_of_same_pathBelow (congrArg Path.components path)
  have joined : pathBelow root (directories ++ [name]) =
      (pathBelow root directories).join ⟨name.bytes⟩ := List.foldl_append
  have down : (directories ++ [name]).reverse ++ above =
      name :: (directories.reverse ++ above) := by
    rw [List.reverse_append]
    rfl
  have made : after.find? (name :: (directories.reverse ++ above)) = some (.file text.toUTF8) := by
    rw [isStaged.entries, if_pos (down.symm.trans isNew)]
  rw [joined] at isText
  obtain ⟨value, located, -⟩ := exists_of_bind_eq_ok isText
  rw [Tree.locate_join isRead (by simp [made]), made] at located
  split at located
  · cases located
  · split at located
    · cases located
    · next sound short =>
      have isThere : after.locate ((pathBelow root directories).join ⟨name.bytes⟩) =
          .ok (name :: (directories.reverse ++ above), .file text.toUTF8) := by
        rw [Tree.locate_join isRead (by simp [made]), sound, if_neg short, made]
      exact Except.ok.inj (isText.symm.trans (readText_of_locate isThere))

/-- The search finds the documents that it found, and in their order perhaps the new file. -/
theorem documents_cases {discovery later : Discovery}
    (isStaged : IsStaged before place bytes after) (entered : after.directory root = .ok above)
    (found : ofTree before settings root = .ok discovery)
    (foundLater : ofTree after settings root = .ok later) :
    later.documents = discovery.documents ∨
      ∃ first rest names, names.reverse ++ above = place ∧
        Finds after settings root (pathBelow root names) ∧
          ¬ Finds before settings root (pathBelow root names) ∧
            discovery.documents = first ++ rest ∧
              later.documents = first ++ pathBelow root names :: rest := by
  have asymm {one other : Path} (isBefore : one < other) (isAfter : other < one) : False :=
    Path.lt_irrefl one (Path.lt_trans isBefore isAfter)
  have ordered := ascending_documents found
  have laterOrdered := ascending_documents foundLater
  by_cases isNew : ∃ names, names.reverse ++ above = place ∧
      Finds after settings root (pathBelow root names) ∧
        ¬ Finds before settings root (pathBelow root names)
  · obtain ⟨names, atPlace, finds, absent⟩ := isNew
    right
    have unlisted := (mem_documents_iff_finds found).not.mpr absent
    have joined (document : Path) : document ∈ later.documents ↔
        document ∈ discovery.documents ∨ document = pathBelow root names := by
      rw [mem_documents_iff_finds found, mem_documents_iff_finds foundLater]
      constructor
      · intro isFound
        rcases isStaged.finds_cases isFound entered with wasFound | ⟨others, rfl, alsoAtPlace⟩
        · exact .inl wasFound
        · have same := List.append_cancel_right (atPlace.trans alsoAtPlace.symm)
          exact .inr (congrArg (pathBelow root) (List.reverse_injective same).symm)
      · intro isFound
        rcases isFound with wasFound | rfl
        · exact isStaged.finds wasFound
        · exact finds
    obtain ⟨first, rest, old, new⟩ :=
      exists_insertion_of_mem_iff asymm ordered laterOrdered unlisted joined
    exact ⟨first, rest, names, atPlace, finds, absent, old, new⟩
  · left
    apply eq_of_pairwise_of_mem_iff asymm laterOrdered ordered
    intro document
    rw [mem_documents_iff_finds found, mem_documents_iff_finds foundLater]
    constructor
    · intro isFound
      rcases isStaged.finds_cases isFound entered with wasFound | ⟨names, rfl, atPlace⟩
      · exact wasFound
      · by_contra absent
        exact isNew ⟨names, atPlace, isFound, absent⟩
    · exact isStaged.finds

end IsStaged

end Tree

end DocMarkers
