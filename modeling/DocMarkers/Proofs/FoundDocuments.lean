import DocMarkers.Proofs.DocumentPaths
import DocMarkers.Proofs.FirstAppearance
import DocMarkers.Proofs.SlashedPaths
import DocMarkers.Proofs.SplitTexts

/-! # Which documents are found

A document below a directory is a regular file with an extension of documents, in directories that
are entered and read (`Tree.HasDocument`). A search finds these and nothing else
(`Discovery.finds_iff`), and where links lead does not matter. A directory whose name is no text is
passed over like a hidden one, and so is one whose path is too long (`documents_missed_on_shelf`).

What is found below a root only depends on what the tree holds, not on the order in which its
directories are listed (`documents_found_exactly`).
-/

namespace DocMarkers

/-- The name of a file has an extension of documents: one of them stands behind the last dot of the
name, and something before it. -/
def Settings.Accepts (settings : Settings) (name : Name) : Prop :=
  ∃ (stem : Bytes) (extension : String), name.bytes = stem ++ Path.dot :: Text.utf8 extension ∧
    stem ≠ [] ∧ Path.dot ∉ Text.utf8 extension ∧
      ∃ known ∈ settings.extensions, sameIgnoringCase extension known = true

/-- A document below a root, which is at the location `above`. -/
structure Tree.HasDocument (tree : Tree) (settings : Settings) (root : Path) (above : Location)
    (directories : List Name) (name : Name) : Prop where
  entered : Discovery.AreEntered tree settings root above directories
  isFile : ∃ bytes, tree.find? (name :: (directories.reverse ++ above)) = some (.file bytes)
  accepted : settings.Accepts name

section Extensions

variable {settings : Settings} {directory : Path} {name : Name}

theorem extension?_join_eq_some_iff {extension : Bytes} :
    (directory.join ⟨name.bytes⟩).extension? = some extension ↔
      ∃ stem, name.bytes = stem ++ Path.dot :: extension ∧ stem ≠ [] ∧ Path.dot ∉ extension := by
  unfold Path.extension?
  rw [Discovery.fileName?_join]
  simp only [Option.bind_eq_bind, Option.bind_some, Option.bind_eq_some_iff, Prod.exists,
    Text.cutFirst?_eq_some_iff]
  constructor
  · intro cut
    obtain ⟨backwards, stem, ⟨split, absent⟩, isExtension⟩ := cut
    obtain ⟨filled, same⟩ := Option.ite_none_left_eq_some.mp isExtension
    obtain rfl := Option.some.inj same
    refine ⟨stem.reverse, ?_, ?_, ?_⟩
    · have spelled := congrArg List.reverse split
      rw [List.reverse_reverse, List.reverse_append, List.reverse_cons, List.append_assoc]
        at spelled
      exact spelled
    · intro empty
      exact filled (List.isEmpty_iff.mpr (List.reverse_eq_nil_iff.mp empty))
    · rw [List.mem_reverse]
      exact absent
  · intro named
    obtain ⟨stem, spelled, filled, absent⟩ := named
    have split : name.bytes.reverse = extension.reverse ++ Path.dot :: stem.reverse := by
      rw [spelled, List.reverse_append, List.reverse_cons, List.append_assoc]
      rfl
    have nonempty : ¬ stem.reverse.isEmpty = true := by
      intro empty
      exact filled (List.reverse_eq_nil_iff.mp (List.isEmpty_iff.mp empty))
    refine ⟨extension.reverse, stem.reverse, ⟨split, ?_⟩, ?_⟩
    · rw [List.mem_reverse]
      exact absent
    · rw [if_neg nonempty, List.reverse_reverse]

theorem isDocument_join_iff :
    settings.isDocument (directory.join ⟨name.bytes⟩) = true ↔ settings.Accepts name := by
  unfold Settings.isDocument Settings.Accepts
  rw [Option.any_eq_true]
  simp only [Option.bind_eq_some_iff, extension?_join_eq_some_iff, Text.text?_eq_some_iff,
    List.any_eq_true]
  constructor
  · intro found
    obtain ⟨extension, ⟨bytes, ⟨stem, spelled, filled, absent⟩, rfl⟩, listed⟩ := found
    exact ⟨stem, extension, spelled, filled, absent, listed⟩
  · intro named
    obtain ⟨stem, extension, spelled, filled, absent, listed⟩ := named
    exact ⟨extension, ⟨_, ⟨stem, spelled, filled, absent⟩, rfl⟩, listed⟩

end Extensions

namespace Tree

variable {tree other : Tree} {root : Path} {above location : Location} {names : List Name}
  {entry : Entry}

theorem namesDown?_eq_some_iff :
    namesDown? above location = some names ↔ location = names.reverse ++ above := by
  unfold namesDown? isWithin
  rw [Option.ite_none_right_eq_some, List.isSuffixOf_iff_suffix]
  constructor
  · intro leads
    obtain ⟨⟨front, rfl⟩, down⟩ := leads
    rw [← Option.some.inj down, List.length_append, Nat.add_sub_cancel, List.reverse_reverse,
      List.take_left]
  · intro leads
    subst leads
    refine ⟨List.suffix_append _ _, ?_⟩
    rw [List.length_append, Nat.add_sub_cancel, List.take_left, List.reverse_reverse]

theorem mem_below_iff_mem_rows :
    (names, entry) ∈ tree.below above ↔ (names.reverse ++ above, entry) ∈ tree.rows := by
  unfold below
  rw [List.mem_filterMap]
  constructor
  · intro listed
    obtain ⟨⟨location, own⟩, member, leads⟩ := listed
    obtain ⟨down, isDown, same⟩ := Option.map_eq_some_iff.mp leads
    obtain ⟨rfl, rfl⟩ := Prod.mk.inj same
    exact namesDown?_eq_some_iff.mp isDown ▸ member
  · intro member
    exact ⟨_, member, Option.map_eq_some_iff.mpr ⟨names, namesDown?_eq_some_iff.mpr rfl, rfl⟩⟩

/-- What is below a location is what is found at the names that lead down from it. -/
theorem mem_below_iff (filled : names ≠ []) :
    (names, entry) ∈ tree.below above ↔ tree.find? (names.reverse ++ above) = some entry := by
  obtain ⟨front, last, rfl⟩ := (List.eq_nil_or_concat names).resolve_left filled
  rw [mem_below_iff_mem_rows, List.concat_eq_append, List.reverse_append]
  exact mem_rows_iff

theorem find?_of_perm (same : other.rows.Perm tree.rows) (location : Location) :
    other.find? location = tree.find? location := by
  cases location with
  | nil => rfl
  | cons name parent =>
      apply Option.ext
      intro entry
      rw [← mem_rows_iff, ← mem_rows_iff, same.mem_iff]

/-- The documents of trees with the same entries are the same. -/
theorem HasDocument.congr {settings : Settings} {directories : List Name} {name : Name}
    (same : ∀ location, other.find? location = tree.find? location)
    (start : other.workingDirectory = tree.workingDirectory)
    (hasDocument : tree.HasDocument settings root above directories name) :
    other.HasDocument settings root above directories name := by
  have entered {root : Path} {above : Location} {directories : List Name}
      (areEntered : Discovery.AreEntered tree settings root above directories) :
      Discovery.AreEntered other settings root above directories := by
    induction directories generalizing root above with
    | nil => trivial
    | cons name rest ih =>
        obtain ⟨isDirectory, kept, ⟨entries, listed⟩, later⟩ := areEntered
        obtain ⟨location, isThere, -⟩ := exists_of_list listed
        have isRead := list_of_directory (directory_congr same start isThere)
        exact ⟨(same _).trans isDirectory, kept, ⟨_, isRead⟩, ih later⟩
  obtain ⟨bytes, isFile⟩ := hasDocument.isFile
  exact ⟨entered hasDocument.entered, ⟨bytes, (same _).trans isFile⟩, hasDocument.accepted⟩

end Tree

namespace Discovery

variable {tree other : Tree} {settings : Settings} {root : Path} {above : Location}

/-- A search finds the documents below a directory. The induction is on the way down to one. -/
theorem finds_of_hasDocument {directories : List Name} {name : Name}
    (entered : tree.directory root = .ok above)
    (hasDocument : tree.HasDocument settings root above directories name) :
    Search.Finds tree settings root (pathBelow root (directories ++ [name])) := by
  obtain ⟨areEntered, ⟨bytes, isFile⟩, accepted⟩ := hasDocument
  induction directories generalizing root above with
  | nil =>
      apply Search.Finds.here (Tree.list_of_directory entered)
      exact mem_filterMap_document?_iff.mpr
        ⟨name, bytes, rfl, isFile, isDocument_join_iff.mpr accepted⟩
  | cons first rest ih =>
      obtain ⟨isDirectory, kept, ⟨entries, listed⟩, later⟩ := areEntered
      obtain ⟨location, joined, -⟩ := Tree.exists_of_list listed
      obtain rfl := Tree.location_of_join entered isDirectory joined
      rw [List.reverse_cons, List.append_assoc] at isFile
      apply Search.Finds.further (Tree.list_of_directory entered)
      · exact mem_filterMap_entered?_iff.mpr ⟨first, rfl, isDirectory, kept⟩
      · exact ih joined later isFile

/-- A search finds the documents below its directory and nothing else. -/
theorem finds_iff (entered : tree.directory root = .ok above) {document : Path} :
    Search.Finds tree settings root document ↔
      ∃ directories name, document = pathBelow root (directories ++ [name]) ∧
        tree.HasDocument settings root above directories name := by
  constructor
  · intro finds
    obtain ⟨directories, name, bytes, rfl, -, areEntered, isFile, isDocument⟩ :=
      exists_names_of_finds finds entered
    have joined : pathBelow root (directories ++ [name]) =
        (pathBelow root directories).join ⟨name.bytes⟩ := List.foldl_append
    rw [joined, isDocument_join_iff] at isDocument
    exact ⟨directories, name, rfl, areEntered, ⟨bytes, isFile⟩, isDocument⟩
  · intro below
    obtain ⟨directories, name, rfl, hasDocument⟩ := below
    exact finds_of_hasDocument entered hasDocument

/-- What is found below a directory are its documents, in order. -/
theorem exists_ofTree (settings : Settings) (entered : tree.directory root = .ok above) :
    ∃ discovery, ofTree tree settings root = .ok discovery ∧
      discovery.documents.Pairwise (fun left right => left < right) ∧
      ∀ path, path ∈ discovery.documents ↔
        ∃ directories name, path = pathBelow root (directories ++ [name]) ∧
          tree.HasDocument settings root above directories name := by
  obtain ⟨discovery, isFound⟩ := exists_ofTree_of_directory settings entered
  refine ⟨discovery, isFound, ascending_documents isFound, ?_⟩
  intro path
  rw [mem_documents_iff_finds isFound, finds_iff entered]

/-- What stands in a directory that is not entered, or that cannot be read, is not found. -/
theorem not_mem_documents {names : List Name} {discovery : Discovery}
    (entered : tree.directory root = .ok above)
    (found : ofTree tree settings root = .ok discovery)
    (passedOver : ¬ AreEntered tree settings root above names.dropLast) :
    pathBelow root names ∉ discovery.documents := by
  rw [mem_documents_iff_finds found, finds_iff entered]
  intro below
  obtain ⟨directories, name, isPath, hasDocument⟩ := below
  obtain rfl := eq_of_same_pathBelow (congrArg Path.components isPath)
  rw [List.dropLast_concat] at passedOver
  exact passedOver hasDocument.entered

end Discovery

/-- **Discovery.** Below a root that is a directory, possibly through a link, the search ends. What
it finds ascends, and consists of the documents below the root: regular files with an extension of
documents, of whatever name, in real directories that can be read and whose names are texts, neither
hidden nor left out; the name of the root does not count. The order in which the directories are
listed does not matter. -/
theorem documents_found_exactly {tree : Tree} {settings : Settings} {root : Path} {above : Location}
    (entered : tree.directory root = .ok above) :
    ∃ discovery, Discovery.ofTree tree settings root = .ok discovery ∧
      discovery.documents.Pairwise (fun left right => left < right) ∧
      (∀ path, path ∈ discovery.documents ↔
        ∃ directories name, path = Discovery.pathBelow root (directories ++ [name]) ∧
          tree.HasDocument settings root above directories name) ∧
      ∀ other : Tree, other.rows.Perm tree.rows → other.workingDirectory = tree.workingDirectory →
        ∃ same, Discovery.ofTree other settings root = .ok same ∧
          same.documents = discovery.documents := by
  obtain ⟨discovery, found, ascending, exactly⟩ := Discovery.exists_ofTree settings entered
  refine ⟨discovery, found, ascending, exactly, ?_⟩
  intro other permuted start
  have entries := Tree.find?_of_perm permuted
  have otherEntered := Tree.directory_congr entries start entered
  obtain ⟨same, otherFound, otherAscending, otherExactly⟩ :=
    Discovery.exists_ofTree settings otherEntered
  refine ⟨same, otherFound, ?_⟩
  apply eq_of_pairwise_of_mem_iff _ otherAscending ascending
  · intro path
    rw [otherExactly, exactly]
    constructor
    · intro below
      obtain ⟨directories, name, isPath, hasDocument⟩ := below
      exact ⟨directories, name, isPath,
        hasDocument.congr (fun location => (entries location).symm) start.symm⟩
    · intro below
      obtain ⟨directories, name, isPath, hasDocument⟩ := below
      exact ⟨directories, name, isPath, hasDocument.congr entries start⟩
  · intro one another before after
    exact Path.lt_irrefl one (Path.lt_trans before after)

def bookName : Name := ⟨"book", by decide +kernel⟩

def chapterName : Name := ⟨"chapter", by decide +kernel⟩

def draftsName : Name := ⟨".drafts", by decide +kernel⟩

def hiddenName : Name := ⟨".x.MD", by decide +kernel⟩

def currentName : Name := ⟨"current", by decide +kernel⟩

/-- A book with a chapter and hidden drafts, each with a hidden file, and a link to the book that
stands in the book itself. -/
def linkedBook : Tree where
  rows := [([bookName], .directory), ([chapterName, bookName], .directory),
    ([draftsName, bookName], .directory), ([hiddenName, chapterName, bookName], .file .empty),
    ([hiddenName, draftsName, bookName], .file .empty),
    ([currentName, bookName], .link "/book")]
  workingDirectory := [bookName]
  distinct := by decide +kernel
  inside := by
    simp only [List.forall_mem_cons]
    exact ⟨⟨_, [], rfl, rfl⟩, ⟨_, [bookName], rfl, rfl⟩, ⟨_, [bookName], rfl, rfl⟩,
      ⟨_, [chapterName, bookName], rfl, rfl⟩, ⟨_, [draftsName, bookName], rfl, rfl⟩,
      ⟨_, [bookName], rfl, rfl⟩, by simp⟩

theorem below_linkedBook : linkedBook.below [bookName] =
    [([], .directory), ([chapterName], .directory), ([draftsName], .directory),
      ([chapterName, hiddenName], .file .empty), ([draftsName, hiddenName], .file .empty),
      ([currentName], .link "/book")] :=
  rfl

theorem directory_linkedBook : linkedBook.directory ⟨"current"⟩ = .ok [bookName] := by
  have steps : Step.ofBytes (Text.utf8 "current") = [.into currentName] := by decide +kernel
  have target : Step.ofBytes (Text.utf8 "/book") = [.gap, .into bookName] := by decide +kernel
  have walks : linkedBook.Walks Tree.linkLimit [bookName] [.into currentName] 39 [bookName]
      .directory := by
    refine .link rfl (by decide +kernel) rfl ?_
    rw [target]
    exact .step rfl rfl (by nofun) (.step rfl (by decide +kernel) (by nofun) (.nil rfl))
  rw [Tree.directory_eq_ok_iff, steps]
  exact ⟨by decide +kernel, 39, walks⟩

/-- Through the link, the chapter is found, with its hidden file, and the drafts are left out. -/
theorem documents_found_exactly_in_linkedBook :
    linkedBook.directory ⟨"current"⟩ = .ok [bookName] ∧
      ∃ discovery, Discovery.ofTree linkedBook {} ⟨"current"⟩ = .ok discovery ∧
        ∀ path, path ∈ discovery.documents ↔ path = ⟨"current/chapter/.x.MD"⟩ := by
  refine ⟨directory_linkedBook, ?_⟩
  obtain ⟨discovery, found, -, exactly, -⟩ := documents_found_exactly directory_linkedBook
  refine ⟨discovery, found, ?_⟩
  intro path
  rw [exactly]
  constructor
  · intro below
    obtain ⟨directories, name, rfl, entered, ⟨bytes, isFile⟩, -⟩ := below
    have listed : (directories ++ [name], .file bytes) ∈ linkedBook.below [bookName] := by
      rw [Tree.mem_below_iff (by simp), List.reverse_append]
      exact isFile
    rw [below_linkedBook] at listed
    simp only [List.mem_cons, Prod.mk.injEq, reduceCtorEq, and_false, List.not_mem_nil, false_or,
      or_false] at listed
    rcases listed with ⟨names, -⟩ | ⟨names, -⟩
    · have split : directories ++ [name] = [chapterName] ++ [hiddenName] := names
      obtain ⟨rfl, last⟩ := List.append_inj' split rfl
      obtain rfl := List.singleton_inj.mp last
      decide +kernel
    · have split : directories ++ [name] = [draftsName] ++ [hiddenName] := names
      obtain ⟨rfl, -⟩ := List.append_inj' split rfl
      obtain ⟨-, ⟨text, spelled, visible, -⟩, -⟩ := entered
      have isText : draftsName.bytes = Text.utf8 ".drafts" := rfl
      obtain rfl := Text.utf8_injective (isText.symm.trans spelled)
      exact absurd (by decide +kernel) visible
  · intro same
    subst same
    have chapter : linkedBook.directory (Path.join ⟨"current"⟩ ⟨chapterName.bytes⟩) =
        .ok [chapterName, bookName] :=
      Tree.directory_join directory_linkedBook rfl (by decide +kernel) (by decide +kernel)
    refine ⟨[chapterName], hiddenName, by decide +kernel, ?_, ⟨_, rfl⟩, ?_⟩
    · exact ⟨rfl, ⟨"chapter", rfl, by decide +kernel, by decide +kernel⟩,
        ⟨_, Tree.list_of_directory chapter⟩, trivial⟩
    · exact ⟨".x", "MD", by decide +kernel, by decide +kernel, by decide +kernel, "md",
        List.mem_cons_self, by decide +kernel⟩

/-- A name that is no text. -/
def strayName : Name := ⟨[0xFF], by decide⟩

def docsName : Name := ⟨"docs", by decide +kernel⟩

def noteName : Name := ⟨"note.md", by decide +kernel⟩

/-- Two directories with a document each; the name of one of them is no text. -/
def shelf : Tree where
  rows := [([docsName], .directory), ([noteName, docsName], .file .empty),
    ([strayName], .directory), ([noteName, strayName], .file .empty)]
  workingDirectory := []
  distinct := by decide +kernel
  inside := by
    simp only [List.forall_mem_cons]
    exact ⟨⟨_, [], rfl, rfl⟩, ⟨_, [docsName], rfl, rfl⟩, ⟨_, [], rfl, rfl⟩,
      ⟨_, [strayName], rfl, rfl⟩, by simp⟩

/-- A directory that is neither hidden nor left out, and that can be read, is passed over with its
document because its name is no text; another one because of the slashes behind the root, which make
its path too long. -/
theorem documents_missed_on_shelf :
    ({} : Settings).Accepts noteName ∧
      (shelf.find? [strayName] = some .directory ∧
        shelf.find? [noteName, strayName] = some (.file .empty) ∧
        strayName.bytes.head? ≠ some Path.dot ∧
        (∀ known ∈ ({} : Settings).exclude, strayName.bytes ≠ Text.utf8 known) ∧
        shelf.directory ⟨"."⟩ = .ok [] ∧
        shelf.list (Path.join ⟨"."⟩ ⟨strayName.bytes⟩) = .ok [(noteName, .file .empty)] ∧
        ∃ discovery, Discovery.ofTree shelf {} ⟨"."⟩ = .ok discovery ∧
          Discovery.pathBelow ⟨"."⟩ [strayName, noteName] ∉ discovery.documents) ∧
      shelf.find? [docsName] = some .directory ∧
        shelf.find? [noteName, docsName] = some (.file .empty) ∧
        ({} : Settings).Enters docsName ∧ shelf.directory (slashed 4091) = .ok [] ∧
        ∃ discovery, Discovery.ofTree shelf {} (slashed 4091) = .ok discovery ∧
          Discovery.pathBelow (slashed 4091) [docsName, noteName] ∉ discovery.documents := by
  have accepted : ({} : Settings).Accepts noteName :=
    ⟨"note", "md", by decide +kernel, by decide +kernel, by decide +kernel, "md",
      List.mem_cons_self, by decide +kernel⟩
  have here : shelf.directory ⟨"."⟩ = .ok [] := directory_here rfl
  have strays : shelf.directory (Path.join ⟨"."⟩ ⟨strayName.bytes⟩) = .ok [strayName] :=
    Tree.directory_join here rfl (by decide +kernel) (by decide +kernel)
  have deep : shelf.directory (slashed 4091) = .ok [] := directory_slashed rfl (by decide)
  obtain ⟨near, nearFound⟩ := Discovery.exists_ofTree_of_directory {} here
  obtain ⟨far, farFound⟩ := Discovery.exists_ofTree_of_directory {} deep
  refine ⟨accepted, ⟨rfl, rfl, by decide +kernel, by decide +kernel, here,
      Tree.list_of_directory strays, near, nearFound, ?_⟩, rfl, rfl,
    ⟨"docs", rfl, by decide +kernel, by decide +kernel⟩, deep, far, farFound, ?_⟩
  · apply Discovery.not_mem_documents here nearFound
    intro entered
    obtain ⟨-, ⟨text, spelled, -⟩, -⟩ := entered
    have noText : Text.text? strayName.bytes = none := by decide +kernel
    cases noText.symm.trans (Text.text?_eq_some_iff.mpr spelled)
  · apply Discovery.not_mem_documents deep farFound
    intro entered
    obtain ⟨-, -, ⟨entries, listed⟩, -⟩ := entered
    obtain ⟨location, isThere, -⟩ := Tree.exists_of_list listed
    have sound := (Tree.directory_eq_ok_iff.mp isThere).1
    have size : docsName.bytes.length = 4 := by decide +kernel
    rw [byteFault?_slashed (bytes_join_slashed docsName 4090) (by decide +kernel), size] at sound
    exact absurd sound (by decide)

end DocMarkers
