import DocMarkers.Proofs.Bindings
import DocMarkers.Proofs.DocumentPaths
import DocMarkers.Proofs.ScannedDocuments
import DocMarkers.Proofs.SlashedPaths
import DocMarkers.Proofs.Walks

/-! # Faults stay with their documents

A scan loses no document: each is unreadable, malformed or clean, and in one of these ways only
(`HasStanding`). Unreadable documents are reported before malformed ones, both in the order of their
paths.

What is resolved depends on the clean documents alone. A document with a fault declares nothing,
refers to nothing and shadows nothing, so an id that only such documents declare is missing
(`Scan.isolates_ofSources`).
-/

namespace DocMarkers

open Relation

/-- A document with its markers, if it can be read to the end. -/
def Tree.clean? (tree : Tree) (document : Path) : Option (Path × List Marker) :=
  match tree.readText document with
  | .ok text => (Marker.readAll text).toOption.map (document, ·)
  | .error _ => none

namespace SourceError

/-- The report of a document that is no text. -/
def ofFile? (tree : Tree) (document : Path) : Option SourceError :=
  match tree.readText document with
  | .ok _ => none
  | .error error => some (.unreadable document error)

/-- The report of a document that is text and has a placeholder that cannot be read. -/
def ofText? (tree : Tree) (document : Path) : Option SourceError :=
  match tree.readText document with
  | .ok text =>
    match Marker.readAll text with
    | .ok _ => none
    | .error error => some (.malformed document error)
  | .error _ => none

end SourceError

/-- How a scan takes a document. -/
inductive Standing where
  | unreadable
  | malformed
  | clean

/-- What is reported of a document. -/
def Scan.reports (scan : Scan) (document : Path) : List SourceError :=
  scan.failures.filter fun failure => decide (failure.path.Same document)

/-- What each standing of a document comes with. -/
inductive HasStanding (tree : Tree) (scan : Scan) (document : Path) : Standing → Prop where
  /-- The file cannot be read, or is no text. -/
  | unreadable {error : FileError} (fails : tree.readText document = .error error)
      (reported : scan.reports document = [.unreadable document error])
      (noText : scan.texts.find? document = none)
      (noMarkers : scan.markers.find? document = none) : HasStanding tree scan document .unreadable
  /-- The file is text, and `raw` is its first placeholder that cannot be read. -/
  | malformed {text raw : String} {before after : List String} {error : MarkerError}
      (isText : tree.readText document = .ok text)
      (cut : Marker.placeholders text = before ++ raw :: after)
      (earlier : ∀ other ∈ before, ∃ marker, Marker.read other = .ok marker)
      (fails : Marker.read raw = .error error)
      (reported : scan.reports document = [.malformed document error])
      (kept : scan.texts.find? document = some text)
      (noMarkers : scan.markers.find? document = none) : HasStanding tree scan document .malformed
  /-- All placeholders of the file are read. -/
  | clean {text : String} {markers : List Marker} (isText : tree.readText document = .ok text)
      (readable : ∀ raw ∈ Marker.placeholders text, ∃ marker, Marker.read raw = .ok marker)
      (areRead : Marker.AreRead (Marker.placeholders text) markers)
      (silent : scan.reports document = [])
      (kept : scan.texts.find? document = some text)
      (marked : scan.markers.find? document = some markers) : HasStanding tree scan document .clean

/-- A scan of documents keeps their faults apart. -/
structure Scan.Isolates (tree : Tree) (documents : List Path) (scan : Scan) : Prop where
  ascending : documents.Pairwise fun left right => left < right
  /-- Every document is taken in one way. -/
  standing : ∀ document ∈ documents, ∃! standing, HasStanding tree scan document standing
  /-- Unreadable documents are reported first, then malformed ones, both in order. -/
  failures : scan.failures =
    documents.filterMap (SourceError.ofFile? tree) ++ documents.filterMap (SourceError.ofText? tree)
  texts : scan.texts.entries = documents.filterMap tree.source?
  /-- The clean documents alone are resolved. -/
  markers : scan.markers.entries = documents.filterMap tree.clean?
  resolution : scan.resolution = resolve scan.markers
  /-- Documents with faults, whatever is in them and however many there are, change nothing. -/
  unaffected : ∀ (other : Tree) (others : List Path),
    (others.Pairwise fun left right => left < right) →
      others.filterMap other.clean? = documents.filterMap tree.clean? →
        (Scan.ofSources (.read other others)).resolution = scan.resolution
  /-- An id that no clean document declares is missing, at each place of a composite marker on no
  circle. -/
  missing : ∀ (occurrence : Occurrence) (id : CheckId) (place : Nat) (name : String),
    (occurrence, id) ∈ scan.resolution.bound →
      ¬ TransGen (Occurrence.RefersTo scan.markers) occurrence occurrence →
        occurrence.marker.ids[place]? = some name →
          (∀ document ∈ documents, ∀ markers, tree.clean? document = some (document, markers) →
            ∀ marker ∈ markers, marker.id ≠ some name) →
              ∃ parts part, scan.resolution.checks[id.index]? = some (.composite parts) ∧
                parts[place]? = some part ∧
                  scan.resolution.checks[part.index]? = some (.unknown (.missingReference name))

section Documents

variable {tree : Tree} {documents : List Path} {document : Path}

theorem Tree.clean?_eq_some_iff {entry : Path × List Marker} :
    tree.clean? document = some entry ↔
      entry.1 = document ∧ ∃ text, tree.readText document = .ok text ∧
        Marker.readAll text = .ok entry.2 := by
  unfold clean?
  cases tree.readText document with
  | error error => simp
  | ok text =>
      cases isRead : Marker.readAll text <;> simp [isRead, Except.toOption, Prod.ext_iff, eq_comm]

theorem Scan.entries_markers_read (ascending : documents.Pairwise fun left right => left < right) :
    (Scan.ofSources (.read tree documents)).markers.entries =
      documents.filterMap tree.clean? := by
  have scanned : (Scan.ofSources (.read tree documents)).markers.entries =
      (Sources.read tree documents).texts.entries.filterMap fun entry =>
        (Marker.readAll entry.2).toOption.map (entry.1, ·) := rfl
  rw [scanned, Sources.entries_texts_read ascending, List.filterMap_filterMap]
  apply List.filterMap_congr
  intro document _
  unfold Tree.source? Tree.clean?
  cases tree.readText document <;> rfl

theorem Scan.failures_read (ascending : documents.Pairwise fun left right => left < right) :
    (Scan.ofSources (.read tree documents)).failures =
      documents.filterMap (SourceError.ofFile? tree) ++
        documents.filterMap (SourceError.ofText? tree) := by
  have malformed : (documents.filterMap tree.source?).filterMap (fun entry =>
      match Marker.readAll entry.2 with
      | .ok _ => none
      | .error error => some (SourceError.malformed entry.1 error)) =
        documents.filterMap (SourceError.ofText? tree) := by
    rw [List.filterMap_filterMap]
    apply List.filterMap_congr
    intro document _
    unfold Tree.source? SourceError.ofText?
    cases tree.readText document <;> rfl
  unfold Scan.ofSources
  dsimp only
  rw [Sources.entries_texts_read ascending]
  exact congrArg (_ ++ ·) malformed

/-- When one document alone passes, it is all that is kept. -/
theorem filterMap_of_alone {β : Type} {keep? : Path → Option β}
    (ascending : documents.Pairwise fun left right => left < right) (member : document ∈ documents)
    (alone : ∀ other, ¬ other.Same document → keep? other = none) :
    documents.filterMap keep? = (keep? document).toList := by
  induction documents with
  | nil => cases member
  | cons first rest ih =>
      obtain ⟨before, later⟩ := List.pairwise_cons.mp ascending
      cases member with
      | head =>
          have none : rest.filterMap keep? = [] := by
            apply List.filterMap_eq_nil_iff.mpr
            intro other inside
            apply alone
            intro same
            exact Path.not_same_of_lt (before other inside) (Eq.symm same)
          cases own : keep? document <;> simp [own, none]
      | tail _ inside =>
          have passedOver := alone first (Path.not_same_of_lt (before document inside))
          rw [List.filterMap_cons_none passedOver, ih later inside]

/-- Of the reports of documents that ascend, those of one document are its own. -/
theorem filter_reports {report? : Path → Option SourceError}
    (own : ∀ other failure, report? other = some failure → failure.path = other)
    (ascending : documents.Pairwise fun left right => left < right)
    (member : document ∈ documents) :
    (documents.filterMap report?).filter (fun failure => decide (failure.path.Same document)) =
      (report? document).toList := by
  have kept (other : Path) :
      (report? other).filter (fun failure => decide (failure.path.Same document)) =
        if other.Same document then report? other else none := by
    cases reported : report? other with
    | none => simp
    | some failure =>
        rw [Option.filter_some, own other failure reported]
        simp
  have itself : document.Same document := rfl
  rw [List.filter_filterMap]
  simp only [kept]
  rw [filterMap_of_alone ascending member, if_pos itself]
  intro other different
  exact if_neg different

theorem SourceError.path_of_ofFile? {failure : SourceError}
    (reported : ofFile? tree document = some failure) : failure.path = document := by
  unfold ofFile? at reported
  cases file : tree.readText document with
  | ok text =>
      rw [file] at reported
      cases reported
  | error error =>
      rw [file] at reported
      rw [← Option.some.inj reported]
      rfl

theorem SourceError.path_of_ofText? {failure : SourceError}
    (reported : ofText? tree document = some failure) : failure.path = document := by
  unfold ofText? at reported
  cases file : tree.readText document with
  | error error =>
      rw [file] at reported
      cases reported
  | ok text =>
      rw [file] at reported
      cases isRead : Marker.readAll text with
      | ok markers =>
          simp only [isRead] at reported
          cases reported
      | error error =>
          simp only [isRead] at reported
          rw [← Option.some.inj reported]
          rfl

theorem Scan.reports_read (tree : Tree)
    (ascending : documents.Pairwise fun left right => left < right)
    (member : document ∈ documents) :
    (Scan.ofSources (.read tree documents)).reports document =
      (SourceError.ofFile? tree document).toList ++
        (SourceError.ofText? tree document).toList := by
  unfold reports
  rw [failures_read ascending, List.filter_append, filter_reports _ ascending member,
    filter_reports _ ascending member]
  · intro other failure
    exact SourceError.path_of_ofText?
  · intro other failure
    exact SourceError.path_of_ofFile?

theorem eq_of_same_of_ascending {other : Path}
    (ascending : documents.Pairwise fun left right => left < right) (member : document ∈ documents)
    (otherMember : other ∈ documents) (same : document.Same other) : document = other := by
  have forward : documents.Pairwise fun left right => left.Same right → left = right :=
    ascending.imp fun before same => absurd same (Path.not_same_of_lt before)
  have backward : documents.Pairwise fun left right => right.Same left → right = left :=
    ascending.imp fun before same => absurd (Eq.symm same) (Path.not_same_of_lt before)
  exact forward.forall_of_forall_of_flip (fun _ _ _ => rfl) backward member otherMember same

/-- A table of what is kept of documents has at each of them what is kept of it. -/
theorem Path.Map.find?_of_entries {α : Type} {map : Map α} {keep? : Path → Option (Path × α)}
    (entries : map.entries = documents.filterMap keep?)
    (own : ∀ other entry, keep? other = some entry → entry.1 = other)
    (ascending : documents.Pairwise fun left right => left < right)
    (member : document ∈ documents) : map.find? document = (keep? document).map Prod.snd := by
  cases kept : keep? document with
  | none =>
      apply find?_eq_none_iff.mpr
      intro entry listed same
      rw [entries] at listed
      obtain ⟨other, inside, otherKept⟩ := List.mem_filterMap.mp listed
      rw [own other entry otherKept] at same
      rw [eq_of_same_of_ascending ascending inside member same, kept] at otherKept
      cases otherKept
  | some entry =>
      apply find?_eq_some_iff.mpr
      refine ⟨entry.1, ?_, ?_⟩
      · rw [entries]
        exact List.mem_filterMap.mpr ⟨document, member, kept⟩
      · rw [own document entry kept]
        rfl

theorem Scan.find?_texts_read (tree : Tree)
    (ascending : documents.Pairwise fun left right => left < right)
    (member : document ∈ documents) :
    (Scan.ofSources (.read tree documents)).texts.find? document =
      (tree.source? document).map Prod.snd := by
  apply Path.Map.find?_of_entries _ _ ascending member
  · exact Sources.entries_texts_read ascending
  · intro other entry kept
    exact (Tree.source?_eq_some_iff.mp kept).1

theorem Scan.find?_markers_read (tree : Tree)
    (ascending : documents.Pairwise fun left right => left < right)
    (member : document ∈ documents) :
    (Scan.ofSources (.read tree documents)).markers.find? document =
      (tree.clean? document).map Prod.snd := by
  apply Path.Map.find?_of_entries _ _ ascending member
  · exact entries_markers_read ascending
  · intro other entry kept
    exact (Tree.clean?_eq_some_iff.mp kept).1

theorem Scan.exists_standing (tree : Tree)
    (ascending : documents.Pairwise fun left right => left < right)
    (member : document ∈ documents) :
    ∃ standing, HasStanding tree (Scan.ofSources (.read tree documents)) document standing := by
  have reported := reports_read tree ascending member
  have text := find?_texts_read tree ascending member
  have marked := find?_markers_read tree ascending member
  unfold SourceError.ofFile? SourceError.ofText? at reported
  unfold Tree.source? at text
  unfold Tree.clean? at marked
  cases file : tree.readText document with
  | error error =>
      simp only [file] at reported text marked
      exact ⟨.unreadable, .unreadable file reported text marked⟩
  | ok content =>
      simp only [file] at reported text marked
      cases isRead : Marker.readAll content with
      | error error =>
          simp only [isRead] at reported marked
          obtain ⟨before, raw, after, cut, earlier, fails⟩ := Marker.readAll_eq_error_iff.mp isRead
          exact ⟨.malformed, .malformed file cut earlier fails reported text marked⟩
      | ok markers =>
          simp only [isRead] at reported marked
          obtain ⟨readable, areRead⟩ := Marker.readAll_eq_ok_iff.mp isRead
          exact ⟨.clean, .clean file readable areRead reported text marked⟩

end Documents

section Standings

variable {tree : Tree} {scan : Scan} {document : Path} {standing : Standing}

/-- The standing of a document is told by what reading it gives. -/
theorem HasStanding.eq (has : HasStanding tree scan document standing) :
    standing = match tree.readText document with
      | .error _ => .unreadable
      | .ok text =>
        match Marker.readAll text with
        | .error _ => .malformed
        | .ok _ => .clean := by
  cases has with
  | unreadable fails => rw [fails]
  | malformed isText cut earlier fails =>
      have isFault := Marker.readAll_eq_error_iff.mpr ⟨_, _, _, cut, earlier, fails⟩
      simp only [isText, isFault]
  | clean isText readable areRead =>
      have isRead := Marker.readAll_eq_ok_iff.mpr ⟨readable, areRead⟩
      simp only [isText, isRead]

end Standings

/-- An id that no file declares is missing wherever a marker on no circle refers to it. -/
theorem exists_missing_part {files : Path.Map (List Marker)} {occurrence : Occurrence}
    {id : CheckId} {place : Nat} {name : String} (row : (occurrence, id) ∈ (resolve files).bound)
    (outside : ¬ TransGen (Occurrence.RefersTo files) occurrence occurrence)
    (named : occurrence.marker.ids[place]? = some name)
    (undeclared : ∀ entry ∈ files.entries, ∀ marker ∈ entry.2, marker.id ≠ some name) :
    ∃ parts part, (resolve files).checks[id.index]? = some (.composite parts) ∧
      parts[place]? = some part ∧
        (resolve files).checks[part.index]? = some (.unknown (.missingReference name)) := by
  have composite : occurrence.marker.kind = .composite := by
    cases claim : occurrence.marker.claim with
    | primitive argument =>
        unfold Marker.ids at named
        rw [claim] at named
        cases named
    | composite argument ids nonempty =>
        unfold Marker.kind
        rw [claim]
  have bound : BoundComposite files occurrence id := ⟨row, composite⟩
  obtain ⟨parts, -, found, answers⟩ := bound.stays outside
  obtain ⟨inside, rfl⟩ := List.getElem?_eq_some_iff.mp named
  have partInside : place < parts.length := answers.length_eq ▸ inside
  have answer := answers.get inside partInside
  refine ⟨parts, parts[place], found, List.getElem?_eq_getElem partInside, ?_⟩
  apply answer.missing.mp
  intro other member
  obtain ⟨entry, listed, otherMember⟩ := List.mem_flatMap.mp member
  obtain ⟨marker, kept, rfl⟩ := List.mem_map.mp otherMember
  exact undeclared entry listed marker (mem_of_mem_distinctOn kept)

/-- Scanning documents in order keeps their faults apart. -/
theorem Scan.isolates_ofSources {tree : Tree} {documents : List Path}
    (ascending : documents.Pairwise fun left right => left < right) :
    (Scan.ofSources (.read tree documents)).Isolates tree documents where
  ascending := ascending
  standing := by
    intro document member
    obtain ⟨standing, has⟩ := exists_standing tree ascending member
    refine ⟨standing, has, ?_⟩
    intro other otherHas
    exact otherHas.eq.trans has.eq.symm
  failures := failures_read ascending
  texts := Sources.entries_texts_read ascending
  markers := entries_markers_read ascending
  resolution := rfl
  unaffected := by
    intro other others othersAscend sameClean
    have sameMarkers : (Scan.ofSources (.read other others)).markers =
        (Scan.ofSources (.read tree documents)).markers := by
      apply Path.Map.eq_of_entries
      rw [entries_markers_read othersAscend, entries_markers_read ascending, sameClean]
    exact congrArg resolve sameMarkers
  missing := by
    intro occurrence id place name row outside named undeclared
    apply exists_missing_part row outside named
    intro entry listed marker inside
    have among : entry ∈ documents.filterMap tree.clean? := entries_markers_read ascending ▸ listed
    obtain ⟨document, member, isClean⟩ := List.mem_filterMap.mp among
    obtain ⟨own, -⟩ := Tree.clean?_eq_some_iff.mp isClean
    obtain ⟨path, markers⟩ := entry
    obtain rfl : path = document := own
    exact undeclared path member markers isClean marker inside

/-- **Faults are isolated.** When a project is scanned, every document that is found is unreadable,
malformed or clean, and is reported and kept accordingly. Unreadable documents are reported before
malformed ones, in the order of their paths. What is resolved are the clean documents alone. -/
theorem scan_isolates_faults {project : Project} {tree : Tree} {scan : Scan}
    {notices : List Notice} (scanned : project.scan tree = .ok (scan, notices)) :
    ∃ discovery, project.discover tree = .ok discovery ∧
      scan.Isolates tree discovery.documents := by
  obtain ⟨discovery, found, ends⟩ := exists_of_bind_eq_ok scanned
  obtain rfl : Scan.ofSources (.read tree discovery.documents) = scan :=
    congrArg Prod.fst (Except.ok.inj ends)
  have ascending := Discovery.ascending_documents (Project.ofTree_of_discover found)
  exact ⟨discovery, found, Scan.isolates_ofSources ascending⟩

theorem isProper_referring : Name.IsProper (Text.utf8 "a.md") := by
  decide +kernel

/-- The names of three documents. -/
def referringName : Name := ⟨"a.md", isProper_referring⟩

def malformedName : Name := ⟨"b.md", by decide +kernel⟩

def undecodableName : Name := ⟨"c.md", by decide +kernel⟩

/-- The first one refers to an id. -/
def referringText : String := "Both hold: !DACDOC ids=gone!."

/-- The second one declares the id, before a placeholder that cannot be read. -/
def malformedText : String := "!DACDOC b.md;id=gone! but !DACDOC ids=!"

/-- A tree with these documents, of which the third is no text. -/
def faulty : Tree where
  rows := [([referringName], .file referringText.toUTF8),
    ([malformedName], .file malformedText.toUTF8), ([undecodableName], .file ⟨#[0xFF]⟩)]
  workingDirectory := []
  distinct := by decide +kernel
  inside := by
    simp only [List.forall_mem_cons]
    exact ⟨⟨_, [], rfl, rfl⟩, ⟨_, [], rfl, rfl⟩, ⟨_, [], rfl, rfl⟩, by simp⟩

theorem directory_faulty : faulty.directory ⟨"."⟩ = .ok [] :=
  directory_here rfl

theorem discover_faulty :
    Project.discover ⟨⟨"."⟩, {}⟩ faulty = .ok ⟨[⟨"./a.md"⟩, ⟨"./b.md"⟩, ⟨"./c.md"⟩], []⟩ := by
  have listed := Tree.list_of_directory directory_faulty
  have flat : (faulty.entriesIn []).filterMap (Discovery.entered? {} ⟨"."⟩) = [] := by
    decide +kernel
  have documents : (faulty.entriesIn []).filterMap (Discovery.document? {} ⟨"."⟩) =
      [⟨"./a.md"⟩, ⟨"./b.md"⟩, ⟨"./c.md"⟩] := by
    decide +kernel
  have leftOut : (faulty.entriesIn []).filterMap (Discovery.leftOut? {} ⟨"."⟩) = [] := by
    decide +kernel
  unfold Project.discover
  rw [Discovery.ofTree_of_flat listed flat, documents, leftOut,
    Discovery.sorted_of_ascending (by decide +kernel), Discovery.sorted_of_ascending .nil]
  rfl

/-- A document at the root of this tree is found behind the dot. -/
theorem locate_faulty (name : Name) {path : Path} {bytes : ByteArray}
    (sound : Tree.byteFault? path = none) (relative : path.isAbsolute = false)
    (steps : Step.ofBytes path.bytes = [.stay, .into name]) (short : name.isTooLong = false)
    (found : faulty.find? [name] = some (.file bytes)) :
    faulty.locate path = .ok ([name], .file bytes) := by
  have start : Tree.startOf faulty.workingDirectory path = [] := by
    unfold Tree.startOf
    rw [relative]
    rfl
  apply Tree.locate_of_walk sound steps
  rw [start, Tree.walk_stay rfl, Tree.walk_into rfl rfl short found nofun]
  exact Tree.walk_nil found

theorem readText_referring : faulty.readText ⟨"./a.md"⟩ = .ok referringText := by
  apply Tree.readText_of_locate
  exact locate_faulty referringName (by decide +kernel) (by decide +kernel)
    (by decide +kernel) (by decide +kernel) rfl

theorem readText_malformed : faulty.readText ⟨"./b.md"⟩ = .ok malformedText := by
  apply Tree.readText_of_locate
  exact locate_faulty malformedName (by decide +kernel) (by decide +kernel)
    (by decide +kernel) (by decide +kernel) rfl

theorem readText_undecodable : faulty.readText ⟨"./c.md"⟩ = .error .notText := by
  apply Tree.readText_of_undecodable
  · exact locate_faulty undecodableName (by decide +kernel) (by decide +kernel)
      (by decide +kernel) (by decide +kernel) rfl
  · decide +kernel

/-- The three documents stand in three ways. -/
theorem scan_isolates_faults_in_faulty :
    ∃ scan notices, Project.scan ⟨⟨"."⟩, {}⟩ faulty = .ok (scan, notices) ∧
      ∃ discovery, Project.discover ⟨⟨"."⟩, {}⟩ faulty = .ok discovery ∧
        scan.Isolates faulty discovery.documents ∧
        HasStanding faulty scan ⟨"./a.md"⟩ .clean ∧
        HasStanding faulty scan ⟨"./b.md"⟩ .malformed ∧
        HasStanding faulty scan ⟨"./c.md"⟩ .unreadable := by
  obtain ⟨notices, scanned⟩ := Project.scan_of_discover discover_faulty
  obtain ⟨discovery, found, isolates⟩ := scan_isolates_faults scanned
  obtain rfl := Except.ok.inj (found.symm.trans discover_faulty)
  refine ⟨_, notices, scanned, _, found, isolates, ?_, ?_, ?_⟩
  · obtain ⟨standing, has, -⟩ := isolates.standing ⟨"./a.md"⟩ (by simp)
    have readable : Marker.readAll referringText = .ok [⟨"!DACDOC ids=gone!", none,
        Marker.defaultTestId, .composite none ["gone"] (by decide)⟩] := by
      decide +kernel
    have isClean := has.eq
    simp only [readText_referring, readable] at isClean
    exact isClean ▸ has
  · obtain ⟨standing, has, -⟩ := isolates.standing ⟨"./b.md"⟩ (by simp)
    have fault : Marker.readAll malformedText = .error (.emptyIds "!DACDOC ids=!") := by
      decide +kernel
    have isMalformed := has.eq
    simp only [readText_malformed, fault] at isMalformed
    exact isMalformed ▸ has
  · obtain ⟨standing, has, -⟩ := isolates.standing ⟨"./c.md"⟩ (by simp)
    have isUnreadable := has.eq
    simp only [readText_undecodable] at isUnreadable
    exact isUnreadable ▸ has

end DocMarkers
