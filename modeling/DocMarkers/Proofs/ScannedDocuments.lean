import DocMarkers.Project.Basic
import DocMarkers.Proofs.PathTables
import DocMarkers.Proofs.Reading

/-! # Scanned documents

The occurrences of a scan are the markers of those documents that can be read to the end
(`Scan.mem_ofFiles_iff`). Each other document is reported, for a fault of the file or of one of its
placeholders; so when documents are at different paths, nothing is reported exactly when all of them
can be read to the end (`Scan.failures_eq_nil_iff`).
-/

namespace DocMarkers

/-- A document is read to the end when it is text and all its placeholders can be read. -/
def IsReadable (tree : Tree) (document : Path) : Prop :=
  ∃ text markers, tree.readText document = .ok text ∧ Marker.readAll text = .ok markers

/-- A document with its text, if it is text. -/
def Tree.source? (tree : Tree) (document : Path) : Option (Path × String) :=
  (tree.readText document).toOption.map (document, ·)

theorem Tree.source?_eq_some_iff {tree : Tree} {document : Path} {entry : Path × String} :
    tree.source? document = some entry ↔
      entry.1 = document ∧ tree.readText document = .ok entry.2 := by
  unfold source?
  cases tree.readText document <;> simp [Except.toOption, Prod.ext_iff, eq_comm]

theorem Sources.texts_read (tree : Tree) (documents : List Path) :
    (Sources.read tree documents).texts = .ofList (documents.filterMap tree.source?) := by
  refine congrArg Path.Map.ofList (congrArg (List.filterMap · documents) ?_)
  funext document
  unfold Tree.source?
  cases tree.readText document <;> rfl

/-- The texts of documents that ascend stand in their order. -/
theorem Sources.entries_texts_read {tree : Tree} {documents : List Path}
    (ascending : documents.Pairwise fun left right => left < right) :
    (Sources.read tree documents).texts.entries = documents.filterMap tree.source? := by
  rw [texts_read]
  apply Path.Map.entries_ofList
  apply ascending.filterMap
  intro left right before leftEntry leftKept rightEntry rightKept
  rw [(Tree.source?_eq_some_iff.mp leftKept).1, (Tree.source?_eq_some_iff.mp rightKept).1]
  exact before

/-- The texts of documents at different paths are those of the documents that can be read. -/
theorem Sources.mem_texts_iff {tree : Tree} {documents : List Path} {path : Path} {text : String}
    (different : documents.Pairwise fun left right => ¬ left.Same right) :
    (path, text) ∈ (Sources.read tree documents).texts.entries ↔
      path ∈ documents ∧ tree.readText path = .ok text := by
  have apart : (documents.filterMap tree.source?).Pairwise
      fun left right => ¬ left.1.Same right.1 := by
    refine different.filterMap tree.source? ?_
    intro left right apart leftEntry leftKept rightEntry rightKept
    rw [(Tree.source?_eq_some_iff.mp leftKept).1, (Tree.source?_eq_some_iff.mp rightKept).1]
    exact apart
  rw [texts_read, Path.Map.mem_ofList_iff apart, List.mem_filterMap]
  simp only [Tree.source?_eq_some_iff]
  constructor
  · rintro ⟨document, member, rfl, isText⟩
    exact ⟨member, isText⟩
  · rintro ⟨member, isText⟩
    exact ⟨path, member, rfl, isText⟩

/-- No document is reported as unreadable when all of them are text. -/
theorem Sources.failures_read_eq_nil_iff {tree : Tree} {documents : List Path} :
    (Sources.read tree documents).failures = [] ↔
      ∀ document ∈ documents, ∃ text, tree.readText document = .ok text := by
  unfold Sources.read
  rw [List.filterMap_eq_nil_iff]
  refine forall₂_congr fun document _ => ?_
  cases tree.readText document <;> simp

namespace Scan

variable {sources : Sources} {path : Path} {text : String} {markers : List Marker}

theorem mem_markers_iff :
    (path, markers) ∈ (ofSources sources).markers.entries ↔
      ∃ text, (path, text) ∈ sources.texts.entries ∧ Marker.readAll text = .ok markers := by
  have scanned : (ofSources sources).markers =
      sources.texts.filterMap fun _ text => (Marker.readAll text).toOption := rfl
  rw [scanned, Path.Map.mem_filterMap_iff]
  refine exists_congr fun text => and_congr_right fun _ => ?_
  cases Marker.readAll text <;> simp [Except.toOption]

/-- The occurrences of a scan are the placeholders of the documents that can be read to the end. -/
theorem mem_ofFiles_iff {occurrence : Occurrence} :
    occurrence ∈ Occurrence.ofFiles (ofSources sources).markers ↔
      ∃ text markers, (occurrence.file, text) ∈ sources.texts.entries ∧
        Marker.readAll text = .ok markers ∧ occurrence.marker ∈ markers := by
  unfold Occurrence.ofFiles
  simp only [List.mem_flatMap, List.mem_map, Prod.exists, mem_markers_iff]
  constructor
  · rintro ⟨path, markers, ⟨text, listed, isRead⟩, marker, kept, rfl⟩
    exact ⟨text, markers, listed, isRead, mem_of_mem_distinctOn kept⟩
  · rintro ⟨text, markers, listed, isRead, member⟩
    have areRead := (Marker.readAll_eq_ok_iff.mp isRead).2
    have found : ∃ kept ∈ distinctOn Marker.raw markers, kept.raw = occurrence.marker.raw :=
      exists_mem_distinctOn member
    obtain ⟨kept, inside, same⟩ := found
    have keptRead := (areRead.mem_iff_read_raw.mp (mem_of_mem_distinctOn inside)).2
    have isItself := (areRead.mem_iff_read_raw.mp member).2
    rw [same, isItself] at keptRead
    have equal : occurrence.marker = kept := Except.ok.inj keptRead
    exact ⟨_, markers, ⟨text, listed, isRead⟩, _, equal ▸ inside, rfl⟩

/-- A document with a placeholder that cannot be read takes part with no occurrence. -/
theorem not_mem_ofFiles_of_malformed {error : MarkerError} {occurrence : Occurrence}
    (listed : (path, text) ∈ sources.texts.entries) (malformed : Marker.readAll text = .error error)
    (same : occurrence.file.Same path) :
    occurrence ∉ Occurrence.ofFiles (ofSources sources).markers := by
  intro member
  obtain ⟨other, markers, otherListed, isRead, -⟩ := mem_ofFiles_iff.mp member
  have entry := Path.Map.entry_unique otherListed listed same
  obtain rfl : other = text := congrArg Prod.snd entry
  cases malformed.symm.trans isRead

/-- A scan reports nothing but unreadable documents when all texts can be read to the end. -/
theorem failures_ofSources_eq_nil_iff :
    (ofSources sources).failures = [] ↔
      sources.failures = [] ∧ ∀ path text, (path, text) ∈ sources.texts.entries →
        ∃ markers, Marker.readAll text = .ok markers := by
  unfold ofSources
  dsimp only
  rw [List.append_eq_nil_iff, List.filterMap_eq_nil_iff, Prod.forall]
  refine and_congr_right fun _ => forall₃_congr fun path text _ => ?_
  cases Marker.readAll text <;> simp

/-- Nothing is reported when all documents can be read to the end. -/
theorem failures_eq_nil_iff {tree : Tree} {documents : List Path}
    (different : documents.Pairwise fun left right => ¬ left.Same right) :
    (ofSources (.read tree documents)).failures = [] ↔
      ∀ document ∈ documents, IsReadable tree document := by
  rw [failures_ofSources_eq_nil_iff, Sources.failures_read_eq_nil_iff]
  constructor
  · rintro ⟨areTexts, areWellFormed⟩ document member
    obtain ⟨text, isText⟩ := areTexts document member
    have listed := (Sources.mem_texts_iff different).mpr ⟨member, isText⟩
    obtain ⟨markers, isRead⟩ := areWellFormed document text listed
    exact ⟨text, markers, isText, isRead⟩
  · intro areReadable
    constructor
    · intro document member
      obtain ⟨text, -, isText, -⟩ := areReadable document member
      exact ⟨text, isText⟩
    · intro document other listed
      obtain ⟨member, isOther⟩ := (Sources.mem_texts_iff different).mp listed
      obtain ⟨text, markers, isText, isRead⟩ := areReadable document member
      obtain rfl : text = other := Except.ok.inj (isText.symm.trans isOther)
      exact ⟨markers, isRead⟩

end Scan

/-- A project scans the documents that it finds. -/
theorem Project.scan_of_discover {project : Project} {tree : Tree} {discovery : Discovery}
    (found : project.discover tree = .ok discovery) :
    ∃ notices, project.scan tree = .ok (.ofSources (.read tree discovery.documents), notices) := by
  unfold scan
  rw [found]
  exact ⟨_, rfl⟩

end DocMarkers
