import DocMarkers.Project.Basic
import DocMarkers.Proofs.PathTables
import DocMarkers.Proofs.Searches

/-! # The paths of documents

The path of an entry below a root spells the names that lead down to it
(`Discovery.components_pathBelow`), and an entry of a tree has one location. So the documents that
are found are at different paths: they ascend (`Discovery.ascending_documents`), and none is read in
the place of another.
-/

namespace DocMarkers

/-- What succeeds in two parts has succeeded in the first, and then in the second. -/
theorem exists_of_bind_eq_ok {ε α β : Type} {first : Except ε α} {rest : α → Except ε β}
    {result : β} (succeeds : (first >>= rest) = .ok result) :
    ∃ value, first = .ok value ∧ rest value = .ok result := by
  cases first with
  | error error => cases succeeds
  | ok value => exact ⟨value, rfl, succeeds⟩

namespace Tree

variable {tree : Tree} {location : Location}

/-- What is located is what is found there. -/
theorem find?_of_locate {path : Path} {entry : Entry}
    (located : tree.locate path = .ok (location, entry)) : tree.find? location = some entry := by
  obtain ⟨arrival, -, ends⟩ := exists_of_bind_eq_ok located
  cases arrival with
  | entry here what found =>
      obtain ⟨rfl, rfl⟩ := Prod.mk.inj (Except.ok.inj ends)
      exact found
  | vacant name parent within free => cases ends

end Tree

/-- A directory of this name is entered: the name is a text that does not start with a dot and is
not one that the settings leave out. -/
def Settings.Enters (settings : Settings) (name : Name) : Prop :=
  ∃ text : String, name.bytes = Text.utf8 text ∧ text.toList.head? ≠ some '.' ∧
    text ∉ settings.exclude

namespace Discovery

/-- The path of an entry, from the names that lead down to it from the root. -/
def pathBelow (root : Path) (names : List Name) : Path :=
  names.foldl (fun path name => path.join ⟨name.bytes⟩) root

variable {root : Path}

/-- The path of an entry adds the names that lead down to it. -/
theorem components_pathBelow (root : Path) (names : List Name) :
    (pathBelow root names).components =
      root.components ++ names.map fun name => .name name.bytes := by
  unfold pathBelow
  induction names generalizing root with
  | nil => simp
  | cons name rest ih =>
      rw [List.foldl_cons, ih, Path.components_join_name, List.append_assoc]
      rfl

/-- Different names lead to different paths. -/
theorem eq_of_same_pathBelow {left right : List Name}
    (same : (pathBelow root left).Same (pathBelow root right)) : left = right := by
  have steps : (pathBelow root left).components = (pathBelow root right).components := same
  rw [components_pathBelow, components_pathBelow] at steps
  have injective : Function.Injective fun name : Name => Path.Component.name name.bytes := by
    intro one other equal
    exact Name.eq_of_bytes_eq (Path.Component.name.inj equal)
  exact List.map_injective_iff.mpr injective (List.append_cancel_left steps)

/-- Sorting puts different paths in ascending order. -/
theorem pairwise_lt_sorted {paths : List Path}
    (different : paths.Pairwise fun left right => ¬ left.Same right) :
    (sorted paths).Pairwise fun left right => left < right := by
  have ordered : (sorted paths).Pairwise fun left right => decide (¬ right < left) = true := by
    apply List.pairwise_mergeSort
    · intro first second third
      simp only [decide_eq_true_iff]
      intro left right back
      exact right (Path.lt_of_lt_of_not_lt back left)
    · intro left right
      simp only [Bool.or_eq_true, decide_eq_true_iff]
      by_contra neither
      obtain ⟨after, before⟩ := not_or.mp neither
      exact Path.lt_irrefl left (Path.lt_trans (not_not.mp before) (not_not.mp after))
  have apart : (sorted paths).Pairwise fun left right => ¬ left.Same right := by
    apply (List.mergeSort_perm _ _).symm.pairwise different
    intro left right apart same
    exact apart (Eq.symm same)
  apply ordered.imp₂ _ apart
  intro left right notAfter apart
  by_contra notBefore
  exact apart (Path.same_of_not_lt notBefore (of_decide_eq_true notAfter))

theorem sorted_of_ascending {paths : List Path}
    (ascending : paths.Pairwise fun left right => left < right) : sorted paths = paths := by
  apply List.mergeSort_of_pairwise
  apply ascending.imp
  intro left right before
  rw [decide_eq_true_iff]
  intro after
  exact Path.lt_irrefl left (Path.lt_trans before after)

/-- Names lead down from a directory through real directories, and the search enters and reads each
of them. -/
def AreEntered (tree : Tree) (settings : Settings) : (directory : Path) → (above : Location) →
    List Name → Prop
  | _, _, [] => True
  | directory, above, name :: rest =>
    tree.find? (name :: above) = some .directory ∧ settings.Enters name ∧
      (∃ entries, tree.list (directory.join ⟨name.bytes⟩) = .ok entries) ∧
      AreEntered tree settings (directory.join ⟨name.bytes⟩) (name :: above) rest

section Found

variable {tree : Tree} {settings : Settings} {directory document : Path} {above : Location}
  {name : Name}

theorem fileName?_join (directory : Path) (name : Name) :
    (directory.join ⟨name.bytes⟩).fileName? = some name.bytes := by
  unfold Path.fileName?
  rw [Path.components_join_name, List.getLast?_concat]

theorem leavesOut_join_iff :
    settings.leavesOut (directory.join ⟨name.bytes⟩) = false ↔ settings.Enters name := by
  unfold Settings.leavesOut Settings.Enters
  rw [fileName?_join, Option.bind_some]
  cases spelled : Text.text? name.bytes with
  | none =>
      have noText (text : String) : name.bytes ≠ Text.utf8 text := by
        intro same
        cases spelled.symm.trans (Text.text?_eq_some_iff.mpr same)
      simp [noText]
  | some text =>
      have same := Text.text?_eq_some_iff.mp spelled
      simp [same, Text.utf8_injective.eq_iff]

theorem mem_filterMap_entered?_iff {subdirectory : Path} :
    subdirectory ∈ (tree.entriesIn above).filterMap (entered? settings directory) ↔
      ∃ name : Name, subdirectory = directory.join ⟨name.bytes⟩ ∧
        tree.find? (name :: above) = some .directory ∧ settings.Enters name := by
  rw [List.mem_filterMap]
  constructor
  · intro found
    obtain ⟨⟨name, entry⟩, member, isEntered⟩ := found
    obtain ⟨rfl, rfl⟩ := eq_join_of_entered? name entry subdirectory isEntered
    have kept := (Option.ite_none_left_eq_some.mp isEntered).1
    rw [Bool.not_eq_true, leavesOut_join_iff] at kept
    exact ⟨name, rfl, Tree.mem_entriesIn_iff.mp member, kept⟩
  · intro found
    obtain ⟨name, rfl, isDirectory, kept⟩ := found
    refine ⟨(name, .directory), Tree.mem_entriesIn_iff.mpr isDirectory, ?_⟩
    exact if_neg (by simp [leavesOut_join_iff.mpr kept])

theorem mem_filterMap_document?_iff :
    document ∈ (tree.entriesIn above).filterMap (document? settings directory) ↔
      ∃ (name : Name) (bytes : ByteArray), document = directory.join ⟨name.bytes⟩ ∧
        tree.find? (name :: above) = some (.file bytes) ∧ settings.isDocument document = true := by
  rw [List.mem_filterMap]
  constructor
  · intro found
    obtain ⟨⟨name, entry⟩, member, isDocument⟩ := found
    obtain ⟨bytes, rfl, rfl⟩ := Search.exists_join_of_document? isDocument
    have kept := (Option.ite_none_right_eq_some.mp isDocument).1
    exact ⟨name, bytes, rfl, Tree.mem_entriesIn_iff.mp member, kept⟩
  · intro found
    obtain ⟨name, bytes, rfl, isFile, kept⟩ := found
    exact ⟨(name, .file bytes), Tree.mem_entriesIn_iff.mpr isFile, if_pos kept⟩

/-- What is found from a directory stands in directories below it that are entered, the last of
which is read. The induction is on the way down. -/
theorem exists_names_of_finds (finds : Search.Finds tree settings directory document)
    (entered : tree.directory directory = .ok above) :
    ∃ directories name bytes, document = pathBelow directory (directories ++ [name]) ∧
      tree.directory (pathBelow directory directories) = .ok (directories.reverse ++ above) ∧
        AreEntered tree settings directory above directories ∧
          tree.find? (name :: (directories.reverse ++ above)) = some (.file bytes) ∧
            settings.isDocument document = true := by
  induction finds generalizing above with
  | here listed member =>
      obtain ⟨location, isThere, rfl⟩ := Tree.exists_of_list listed
      obtain rfl := Except.ok.inj (entered.symm.trans isThere)
      obtain ⟨name, bytes, rfl, isFile, kept⟩ := mem_filterMap_document?_iff.mp member
      exact ⟨[], name, bytes, rfl, entered, trivial, isFile, kept⟩
  | further listed member later ih =>
      obtain ⟨location, isThere, rfl⟩ := Tree.exists_of_list listed
      obtain rfl := Except.ok.inj (entered.symm.trans isThere)
      obtain ⟨first, rfl, isDirectory, kept⟩ := mem_filterMap_entered?_iff.mp member
      obtain ⟨entries, inside⟩ := later.exists_list
      obtain ⟨location, joined, -⟩ := Tree.exists_of_list inside
      have same := Tree.location_of_join entered isDirectory joined
      obtain ⟨directories, name, bytes, path, isRead, areEntered, isFile, isDocument⟩ :=
        ih (same ▸ joined)
      rw [List.append_cons, ← List.reverse_cons] at isRead isFile
      exact ⟨first :: directories, name, bytes, path, isRead,
        ⟨isDirectory, kept, ⟨entries, inside⟩, areEntered⟩, isFile, isDocument⟩

variable {root : Path} {discovery : Discovery}

/-- Only the root has to be readable. -/
theorem exists_ofTree_of_directory (settings : Settings)
    (entered : tree.directory root = .ok above) :
    ∃ discovery, ofTree tree settings root = .ok discovery := by
  unfold ofTree Search.below
  rw [Tree.list_of_directory entered]
  exact ⟨_, rfl⟩

/-- A discovery is a finished search from the root. -/
theorem documents_of_ofTree (found : ofTree tree settings root = .ok discovery) :
    ∃ above, tree.directory root = .ok above ∧
      discovery.documents = sorted (Search.run tree settings { pending := [root] }).documents := by
  obtain ⟨search, finished, ends⟩ := exists_of_bind_eq_ok found
  obtain ⟨entries, listed, taken⟩ := exists_of_bind_eq_ok finished
  obtain ⟨above, entered, -⟩ := Tree.exists_of_list listed
  have first : Search.run tree settings { pending := [root] } =
      (Search.take settings root entries {}).run tree settings :=
    Search.run_of_list rfl listed
  refine ⟨above, entered, ?_⟩
  rw [first, ← Except.ok.inj ends, ← Except.ok.inj taken]
  rfl

/-- Below a root without directories that are entered, the search is over at once. -/
theorem ofTree_of_flat {entries : List (Name × Entry)} (listed : tree.list root = .ok entries)
    (flat : entries.filterMap (entered? settings root) = []) :
    ofTree tree settings root = .ok ⟨sorted (entries.filterMap (document? settings root)),
      sorted (entries.filterMap (leftOut? settings root))⟩ := by
  have finished : (Search.take settings root entries {}).pending = [] := by
    unfold Search.take
    rw [flat]
    rfl
  unfold ofTree Search.below
  rw [listed]
  change Except.ok (ofSearch ((Search.take settings root entries {}).run tree settings)) = _
  rw [Search.run_of_nil finished]
  rfl

theorem mem_documents_iff_finds (found : ofTree tree settings root = .ok discovery) :
    document ∈ discovery.documents ↔ Search.Finds tree settings root document := by
  obtain ⟨above, -, documents⟩ := documents_of_ofTree found
  unfold sorted at documents
  rw [documents, (List.mergeSort_perm _ _).mem_iff, Search.mem_documents_run_iff]
  simp

/-- The documents that are found ascend. -/
theorem ascending_documents (found : ofTree tree settings root = .ok discovery) :
    discovery.documents.Pairwise fun left right => left < right := by
  obtain ⟨above, -, documents⟩ := documents_of_ofTree found
  have apart : (Search.run tree settings { pending := [root] }).documents.Pairwise Path.Apart :=
    Search.pairwise_apart_run (List.pairwise_singleton _ _)
  rw [documents]
  apply pairwise_lt_sorted
  apply apart.imp
  intro left right beside same
  exact beside.1 (same ▸ List.prefix_rfl)

/-- So they are at different paths. -/
theorem pairwise_documents (found : ofTree tree settings root = .ok discovery) :
    discovery.documents.Pairwise fun left right => ¬ left.Same right :=
  (ascending_documents found).imp Path.not_same_of_lt

/-- Every document is a file below the directory of the root. -/
theorem exists_names_of_mem (found : ofTree tree settings root = .ok discovery) {document : Path}
    (member : document ∈ discovery.documents) :
    ∃ above names bytes, tree.directory root = .ok above ∧ names ≠ [] ∧
      document = pathBelow root names ∧
        tree.find? (names.reverse ++ above) = some (.file bytes) := by
  obtain ⟨above, entered, -⟩ := documents_of_ofTree found
  obtain ⟨directories, name, bytes, path, -, -, isFile, -⟩ :=
    exists_names_of_finds ((mem_documents_iff_finds found).mp member) entered
  refine ⟨above, directories ++ [name], bytes, entered, by simp, path, ?_⟩
  rw [List.reverse_append]
  exact isFile

end Found

end Discovery

/-- A project finds what is found below its root. -/
theorem Project.ofTree_of_discover {project : Project} {tree : Tree} {discovery : Discovery}
    (found : project.discover tree = .ok discovery) :
    Discovery.ofTree tree project.settings project.root = .ok discovery := by
  unfold discover at found
  cases listed : Discovery.ofTree tree project.settings project.root with
  | error error =>
      rw [listed] at found
      cases found
  | ok other =>
      rw [listed] at found
      rw [← Except.ok.inj found]

end DocMarkers
