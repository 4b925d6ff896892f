import DocMarkers.Project.Discovery
import Mathlib.Data.List.Basic
import Mathlib.Data.List.Pairwise

/-! # The search for documents

What a search finds from a directory are the documents that stand in it, and what it finds from the
directories in it that are entered (`Search.Finds`). A finished search has found what it had before,
and what there is to find from the directories that waited (`Search.mem_documents_run_iff`).

None of the paths of a search is above another one, neither of the documents nor of the directories
that wait, and listing a directory keeps it so (`Search.pairwise_apart_take`). So no document is
found twice.
-/

namespace DocMarkers

/-- Neither of two paths is the other one or lies below it. -/
def Path.Apart (left right : Path) : Prop :=
  ¬ left.components <+: right.components ∧ ¬ right.components <+: left.components

namespace Path.Apart

variable {directory path : Path} {name other : Name}

theorem symm {left right : Path} (apart : left.Apart right) : right.Apart left :=
  ⟨apart.2, apart.1⟩

/-- What stands in a directory is apart from all that the directory is apart from. -/
theorem join (apart : directory.Apart path) : (directory.join ⟨name.bytes⟩).Apart path := by
  unfold Apart
  rw [components_join_name]
  refine ⟨?_, ?_⟩
  · intro above
    exact apart.1 ((List.prefix_append _ _).trans above)
  · intro below
    rcases List.prefix_concat_iff.mp below with same | below
    · exact apart.1 (same ▸ List.prefix_append _ _)
    · exact apart.2 below

theorem of_names (different : name ≠ other) :
    (directory.join ⟨name.bytes⟩).Apart (directory.join ⟨other.bytes⟩) := by
  have names {first second : Name}
      (above : directory.components ++ [.name first.bytes] <+:
        directory.components ++ [.name second.bytes]) : first = second := by
    have same := above.eq_of_length (by simp)
    have last := List.singleton_inj.mp (List.append_cancel_left same)
    exact Name.eq_of_bytes_eq (Component.name.inj last)
  unfold Apart
  rw [components_join_name, components_join_name]
  exact ⟨fun above => different (names above), fun below => different (names below).symm⟩

end Path.Apart

namespace Search

/-- What a search finds from a directory. -/
inductive Finds (tree : Tree) (settings : Settings) : (directory document : Path) → Prop where
  | here {directory document : Path} {entries : List (Name × Entry)}
      (listed : tree.list directory = .ok entries)
      (member : document ∈ entries.filterMap (Discovery.document? settings directory)) :
      Finds tree settings directory document
  | further {directory subdirectory document : Path} {entries : List (Name × Entry)}
      (listed : tree.list directory = .ok entries)
      (entered : subdirectory ∈ entries.filterMap (Discovery.entered? settings directory))
      (later : Finds tree settings subdirectory document) : Finds tree settings directory document

variable {tree : Tree} {settings : Settings} {search : Search} {directory document : Path}
  {entries : List (Name × Entry)}

theorem finds_iff_of_list (listed : tree.list directory = .ok entries) :
    Finds tree settings directory document ↔
      document ∈ entries.filterMap (Discovery.document? settings directory) ∨
        ∃ subdirectory ∈ entries.filterMap (Discovery.entered? settings directory),
          Finds tree settings subdirectory document := by
  constructor
  · intro finds
    cases finds with
    | here same member =>
        obtain rfl := Except.ok.inj (listed.symm.trans same)
        exact .inl member
    | further same entered later =>
        obtain rfl := Except.ok.inj (listed.symm.trans same)
        exact .inr ⟨_, entered, later⟩
  · intro found
    rcases found with member | ⟨subdirectory, entered, later⟩
    · exact .here listed member
    · exact .further listed entered later

theorem not_finds_of_error {error : FileError} (fails : tree.list directory = .error error) :
    ¬ Finds tree settings directory document := by
  intro finds
  cases finds with
  | here listed => cases fails.symm.trans listed
  | further listed => cases fails.symm.trans listed

theorem Finds.exists_list (finds : Finds tree settings directory document) :
    ∃ entries, tree.list directory = .ok entries := by
  cases finds with
  | here listed => exact ⟨_, listed⟩
  | further listed => exact ⟨_, listed⟩

theorem run_of_nil (finished : search.pending = []) : search.run tree settings = search := by
  rw [run]
  split
  · rfl
  · next waiting => cases finished.symm.trans waiting

theorem run_of_list {rest : List Path} (waiting : search.pending = directory :: rest)
    (listed : tree.list directory = .ok entries) :
    search.run tree settings =
      ({ search with pending := rest }.take settings directory entries).run tree settings := by
  rw [run]
  split
  · next finished => cases waiting.symm.trans finished
  · next other others same =>
    obtain ⟨rfl, rfl⟩ := List.cons.inj (waiting.symm.trans same)
    split
    · next isListed =>
      obtain rfl := Except.ok.inj (listed.symm.trans isListed)
      rfl
    · next fails => cases listed.symm.trans fails

theorem run_of_error {rest : List Path} {error : FileError}
    (waiting : search.pending = directory :: rest) (fails : tree.list directory = .error error) :
    search.run tree settings =
      run tree settings { search with
        pending := rest, unreadable := search.unreadable ++ [(directory, error)] } := by
  rw [run]
  split
  · next finished => cases waiting.symm.trans finished
  · next other others same =>
    obtain ⟨rfl, rfl⟩ := List.cons.inj (waiting.symm.trans same)
    split
    · next listed => cases fails.symm.trans listed
    · next isError =>
      obtain rfl := Except.error.inj (fails.symm.trans isError)
      rfl

/-- The search only asks which directories are left out and what is a document. -/
theorem run_congr {other : Settings} (same : take other = take settings) :
    search.run tree other = search.run tree settings := by
  fun_induction run tree settings search with
  | case1 search finished => exact run_of_nil finished
  | case2 search directory rest waiting entries listed ih =>
      rw [run_of_list waiting listed, same, ih]
  | case3 search directory rest waiting error fails ih => rw [run_of_error waiting fails, ih]

theorem below_congr {other : Settings} (same : take other = take settings) (root : Path) :
    below tree other root = below tree settings root := by
  unfold below
  rw [same]
  cases tree.list root with
  | error error => rfl
  | ok entries => exact congrArg Except.ok (run_congr same)

/-- A finished search has found what there was to find. -/
theorem mem_documents_run_iff :
    document ∈ (search.run tree settings).documents ↔
      document ∈ search.documents ∨
        ∃ directory ∈ search.pending, Finds tree settings directory document := by
  fun_induction run tree settings search with
  | case1 search finished => simp [finished]
  | case2 search directory rest waiting entries listed ih =>
      rw [ih, waiting]
      simp only [take, List.mem_append, List.mem_reverse, List.exists_mem_cons_iff, or_and_right,
        exists_or, finds_iff_of_list listed, or_assoc]
  | case3 search directory rest waiting error fails ih =>
      have nothing : ¬ Finds tree settings directory document := not_finds_of_error fails
      rw [ih, waiting]
      simp [nothing]

section Apart

theorem exists_join_of_document? {entry : Name × Entry}
    (isDocument : Discovery.document? settings directory entry = some document) :
    ∃ bytes, entry.2 = .file bytes ∧ document = directory.join ⟨entry.1.bytes⟩ := by
  unfold Discovery.document? at isDocument
  split at isDocument
  · exact ⟨_, rfl, (Option.some.inj (Option.ite_none_right_eq_some.mp isDocument).2).symm⟩
  · cases isDocument

theorem exists_join_of_mem {path : Path}
    (member : path ∈ entries.filterMap (Discovery.document? settings directory) ++
      entries.filterMap (Discovery.entered? settings directory)) :
    ∃ name : Name, path = directory.join ⟨name.bytes⟩ := by
  rcases List.mem_append.mp member with isDocument | isEntered
  · obtain ⟨entry, -, isFile⟩ := List.mem_filterMap.mp isDocument
    obtain ⟨-, -, same⟩ := exists_join_of_document? isFile
    exact ⟨entry.1, same⟩
  · obtain ⟨entry, -, isDirectory⟩ := List.mem_filterMap.mp isEntered
    exact ⟨entry.1, (Discovery.eq_join_of_entered? _ _ _ isDirectory).2⟩

/-- What is found in one directory, and the directories in it, stand beside each other. -/
theorem pairwise_apart_entriesIn (tree : Tree) (settings : Settings) (directory : Path)
    (location : Location) :
    ((tree.entriesIn location).filterMap (Discovery.document? settings directory) ++
      (tree.entriesIn location).filterMap (Discovery.entered? settings directory)).Pairwise
        Path.Apart := by
  refine List.pairwise_append.mpr ⟨?_, ?_, ?_⟩
  · apply (tree.pairwise_entriesIn location).filterMap
    intro left right different document isLeft other isRight
    obtain ⟨-, -, rfl⟩ := exists_join_of_document? isLeft
    obtain ⟨-, -, rfl⟩ := exists_join_of_document? isRight
    exact .of_names different
  · apply (tree.pairwise_entriesIn location).filterMap
    intro left right different subdirectory isLeft other isRight
    obtain ⟨-, rfl⟩ := Discovery.eq_join_of_entered? _ _ _ isLeft
    obtain ⟨-, rfl⟩ := Discovery.eq_join_of_entered? _ _ _ isRight
    exact .of_names different
  · intro document isDocument subdirectory isEntered
    obtain ⟨⟨name, entry⟩, member, isFile⟩ := List.mem_filterMap.mp isDocument
    obtain ⟨⟨other, what⟩, otherMember, isDirectory⟩ := List.mem_filterMap.mp isEntered
    obtain ⟨bytes, file, rfl⟩ := exists_join_of_document? isFile
    obtain ⟨rfl, rfl⟩ := Discovery.eq_join_of_entered? _ _ _ isDirectory
    apply Path.Apart.of_names
    intro same
    obtain rfl : name = other := same
    have found := Tree.mem_entriesIn_iff.mp member
    rw [Tree.mem_entriesIn_iff.mp otherMember] at found
    obtain rfl : entry = .directory := (Option.some.inj found).symm
    cases file

/-- Listing a directory puts paths in its place that stand in it. -/
theorem pairwise_apart_take {rest : List Path} (listed : tree.list directory = .ok entries)
    (apart : (search.documents ++ directory :: rest).Pairwise Path.Apart) :
    let next := { search with pending := rest }.take settings directory entries
    (next.documents ++ next.pending).Pairwise Path.Apart := by
  intro next
  obtain ⟨location, -, rfl⟩ := Tree.exists_of_list listed
  have symm {left right : Path} (apart : left.Apart right) : right.Apart left := apart.symm
  have first : (directory :: (search.documents ++ rest)).Pairwise Path.Apart :=
    (List.perm_middle.pairwise_iff symm).mp apart
  obtain ⟨above, kept⟩ := List.pairwise_cons.mp first
  have beside : ∀ path ∈
      (tree.entriesIn location).filterMap (Discovery.document? settings directory) ++
        (tree.entriesIn location).filterMap (Discovery.entered? settings directory),
          ∀ other ∈ search.documents ++ rest, path.Apart other := by
    intro path member other old
    obtain ⟨name, rfl⟩ := exists_join_of_mem member
    exact (above other old).join
  refine (List.Perm.pairwise_iff symm ?_).mp (List.pairwise_append.mpr
    ⟨pairwise_apart_entriesIn tree settings directory location, kept, beside⟩)
  rw [List.perm_iff_count]
  intro path
  simp only [next, take, List.count_append, List.count_reverse]
  omega

/-- No search comes to two paths of which one is above the other. -/
theorem pairwise_apart_run (apart : (search.documents ++ search.pending).Pairwise Path.Apart) :
    (search.run tree settings).documents.Pairwise Path.Apart := by
  fun_induction run tree settings search with
  | case1 search finished =>
      rw [finished, List.append_nil] at apart
      exact apart
  | case2 search directory rest waiting entries listed ih =>
      rw [waiting] at apart
      exact ih (pairwise_apart_take listed apart)
  | case3 search directory rest waiting error fails ih =>
      rw [waiting] at apart
      apply ih
      exact apart.sublist (List.Sublist.append_left (List.sublist_cons_self directory rest) _)

end Apart

end Search

end DocMarkers
