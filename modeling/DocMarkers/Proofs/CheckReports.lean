import DocMarkers.Proofs.FirstAppearance
import DocMarkers.Proofs.Gate
import DocMarkers.Proofs.Isolation
import DocMarkers.Proofs.RelativePaths
import DocMarkers.Proofs.ReportLines
import DocMarkers.Proofs.SlashedPaths

/-! # What a report shows

The report of a check has one row for each different placeholder of a clean document, in the order
of the documents and of the placeholders, and counts exactly these rows (`CheckReport.IsComplete`).
Both formats show the same report (`check_report_complete`).

As a text, the rows stand below the names of their documents. A path that is no text is not shown to
the letter, so documents next to each other may share a name (`names_fall_short`); where all paths
are texts, every document has a name of its own.
-/

namespace DocMarkers

/-- The different placeholders of a document that can be read to the end, as they first appear. -/
def cleanPlaceholders (tree : Tree) (document : Path) : List String :=
  match tree.readText document with
  | .ok text => if (Marker.readAll text).isOk then distinct (Marker.placeholders text) else []
  | .error _ => []

/-- A document is at a root joined with a text. -/
def Path.HasText (root document : Path) : Prop :=
  ∃ text : String, (Path.mk text).isAbsolute = false ∧ root.join ⟨text⟩ = document

/-- A row shows a placeholder of a document: what it is read as, the check of this occurrence, and
what came out of it. -/
structure CheckRow.Shows (root : Path) (resolution : Resolution) (evaluation : Evaluation)
    (place : Path × String) (row : CheckRow) : Prop where
  /-- The document is named as it is seen from the root. -/
  named : ∃ relative : Path, relative.isAbsolute = false ∧ root.join relative = place.1 ∧
    row.file = relative.text
  raw : row.marker.raw = place.2
  isRead : Marker.read place.2 = .ok row.marker
  bound : ∃ id, (⟨place.1, row.marker⟩, id) ∈ resolution.bound ∧
    resolution.checks[id.index]? = some row.check ∧
    evaluation.outcomes[id.index]? = some row.outcome

/-- An outcome as it stands in a report. -/
def Outcome.record : Outcome → Json
  | passed => .object [("status", .string "passed")]
  | failed detail => .object [("status", .string "failed"), ("detail", .string detail)]
  | indeterminate detail =>
    .object [("status", .string "indeterminate"), ("detail", .string detail)]

/-- A report of the documents of a project is complete. -/
structure CheckReport.IsComplete (tree : Tree) (documents : List Path) (root : Path)
    (resolution : Resolution) (evaluation : Evaluation) (report : CheckReport) : Prop where
  ascending : documents.Pairwise fun left right => left < right
  /-- There is one row for each placeholder, in order. -/
  rows : List.Forall₂ (CheckRow.Shows root resolution evaluation)
    (documents.flatMap fun document => (cleanPlaceholders tree document).map (document, ·))
    report.rows
  /-- The summary counts the rows. -/
  passed : report.summary.passed = report.rows.countP fun row => row.outcome.isPassed
  failed : report.summary.failed = report.rows.countP fun row => row.outcome.isFailed
  indeterminate :
    report.summary.indeterminate = report.rows.countP fun row => row.outcome.isIndeterminate
  total : report.summary.total = report.rows.length
  /-- Each other document is reported once. -/
  failures : (report.failures.map SourceError.path).Perm
    (documents.filter fun document => (tree.clean? document).isNone)
  /-- As a text, the rows stand below the names of the documents that have any, with one name for
  neighbours that are shown alike. The counts follow. -/
  lines : ∃ (sections : List (String × List CheckRow)) (shown : CheckRow → List String),
    AreSections
      (((documents.filter fun document => cleanPlaceholders tree document ≠ []).map
        root.relativeTo).destutter (· ≠ ·))
      report.rows sections ∧
    (∀ row ∈ report.rows, row.IsShownBy (shown row)) ∧
    report.lines = sectionLines shown sections ++
      ["", "Checked " ++ toString report.rows.length ++ " marker(s): " ++
        toString (report.rows.countP fun row => row.outcome.isPassed) ++ " passed, " ++
        toString (report.rows.countP fun row => row.outcome.isFailed) ++ " failed, " ++
        toString (report.rows.countP fun row => row.outcome.isIndeterminate) ++ " indeterminate"]
  /-- Documents at paths that are texts are all shown under different names. -/
  apart : (∀ document ∈ documents, root.HasText document) →
    let names := (documents.filter fun document => cleanPlaceholders tree document ≠ []).map
      root.relativeTo
    names.Nodup ∧ names.destutter (· ≠ ·) = names
  /-- As JSON, each row has all that it shows. -/
  json : report.json = .object [
    ("root", .string root.text),
    ("summary", .object [("passed", .number report.summary.passed),
      ("failed", .number report.summary.failed),
      ("indeterminate", .number report.summary.indeterminate)]),
    ("results", .array (report.rows.map fun row => .object [
      ("file", .string row.file), ("marker", .string row.marker.raw),
      ("kind", .string row.marker.kind.text), ("id", .optional row.marker.id),
      ("check", .string row.check.describe), ("outcome", row.outcome.record)])),
    ("failures", .array (report.failures.map fun failure => .object [
      ("file", .string (root.relativeTo failure.path)), ("kind", .string failure.kind),
      ("error", .string failure.message)]))]

theorem map_raw_of_readAll {text : String} {markers : List Marker}
    (isRead : Marker.readAll text = .ok markers) :
    markers.map Marker.raw = distinct (Marker.placeholders text) := by
  unfold Marker.readAll at isRead
  cases results : (Marker.placeholders text).mapM Marker.read with
  | error error =>
      rw [results] at isRead
      cases isRead
  | ok readings =>
      rw [results] at isRead
      have texts : Marker.placeholders text = readings.map Marker.raw := by
        rw [← List.forall₂_eq_eq_eq, List.forall₂_map_right_iff]
        exact (mapM_eq_ok_iff.mp results).imp fun _ _ isRead => (Marker.raw_of_read isRead).symm
      have kept : distinct (readings.map Marker.raw) =
          (distinctOn Marker.raw readings).map Marker.raw :=
        distinctOn_map id Marker.raw readings
      rw [texts, kept, ← Except.ok.inj isRead]

theorem distinctOn_of_readAll {text : String} {markers : List Marker}
    (isRead : Marker.readAll text = .ok markers) : distinctOn Marker.raw markers = markers := by
  apply distinctOn_eq_self
  have different : (markers.map Marker.raw).Nodup := map_raw_of_readAll isRead ▸ nodup_distinct _
  exact List.pairwise_map.mp different

section Lists

variable {α β γ : Type} {list : List α}

theorem flatMap_filter_of_empty {keep : α → Bool} {change : α → List β}
    (empty : ∀ element, keep element = false → change element = []) :
    (list.filter keep).flatMap change = list.flatMap change := by
  induction list with
  | nil => rfl
  | cons first rest ih =>
      by_cases kept : keep first = true
      · rw [List.filter_cons_of_pos kept, List.flatMap_cons, ih, List.flatMap_cons]
      · rw [List.filter_cons_of_neg kept, List.flatMap_cons, ih,
          empty first (Bool.not_eq_true _ ▸ kept), List.nil_append]

theorem flatMap_filterMap (keep? : α → Option β) (change : β → List γ) (list : List α) :
    (list.filterMap keep?).flatMap change =
      list.flatMap fun element => ((keep? element).map change).getD [] := by
  induction list with
  | nil => rfl
  | cons first rest ih => cases kept : keep? first <;> simp [kept, ih]

theorem forall₂_flatMap {relation : β → γ → Prop} {left : α → List β} {right : α → List γ}
    (each : ∀ element ∈ list, List.Forall₂ relation (left element) (right element)) :
    List.Forall₂ relation (list.flatMap left) (list.flatMap right) := by
  induction list with
  | nil => exact .nil
  | cons first rest ih =>
      obtain ⟨here, later⟩ := List.forall_mem_cons.mp each
      exact List.rel_append here (ih later)

end Lists

section Rows

variable {tree : Tree} {documents : List Path} {root : Path} {probe : Probe} {document : Path}

/-- A document has placeholders to be checked when it is clean: those of its markers. -/
theorem cleanPlaceholders_eq (tree : Tree) (document : Path) :
    cleanPlaceholders tree document =
      ((tree.clean? document).map fun entry => entry.2.map Marker.raw).getD [] := by
  unfold cleanPlaceholders Tree.clean?
  cases tree.readText document with
  | error error => rfl
  | ok text =>
      cases isRead : Marker.readAll text with
      | error error => simp [isRead, Except.isOk, Except.toBool, Except.toOption]
      | ok markers =>
          have texts := map_raw_of_readAll isRead
          simp [isRead, Except.isOk, Except.toBool, Except.toOption, texts]

/-- The row of an occurrence, which its resolution looks up. -/
def rowOf (root : Path) (resolution : Resolution) (evaluation : Evaluation)
    (occurrence : Occurrence) : CheckRow :=
  .ofOccurrence root resolution evaluation occurrence
    ((resolution.checkId? occurrence).getD ⟨0⟩)

/-- The rows of a document. -/
def documentRows (tree : Tree) (root : Path) (resolution : Resolution) (evaluation : Evaluation)
    (document : Path) : List CheckRow :=
  ((tree.clean? document).map fun entry =>
    entry.2.map fun marker => rowOf root resolution evaluation ⟨document, marker⟩).getD []

theorem map_bound_eq (files : Path.Map (List Marker)) (evaluation : Evaluation) :
    (resolve files).bound.map (fun row =>
        CheckRow.ofOccurrence root (resolve files) evaluation row.1 row.2) =
      (Occurrence.ofFiles files).map (rowOf root (resolve files) evaluation) := by
  have occurrences : (resolve files).bound.map Prod.fst = Occurrence.ofFiles files :=
    Resolution.map_fst_bound _
  rw [← occurrences, List.map_map]
  apply List.map_congr_left
  intro row member
  unfold rowOf
  rw [Function.comp_apply, checkId?_of_bound member]
  rfl

theorem rows_ofScan (tree : Tree) (project : Project) (evaluation : Evaluation)
    (ascending : documents.Pairwise fun left right => left < right) :
    let scan := Scan.ofSources (.read tree documents)
    (CheckReport.ofScan project scan evaluation).rows =
      documents.flatMap (documentRows tree project.root scan.resolution evaluation) := by
  intro scan
  have resolved : scan.resolution = resolve scan.markers := rfl
  have rows : (CheckReport.ofScan project scan evaluation).rows =
      (Occurrence.ofFiles scan.markers).map (rowOf project.root scan.resolution evaluation) :=
    map_bound_eq scan.markers evaluation
  rw [rows]
  unfold Occurrence.ofFiles
  rw [Scan.entries_markers_read ascending, flatMap_filterMap, List.map_flatMap]
  apply List.flatMap_congr
  intro document member
  unfold documentRows
  cases clean : tree.clean? document with
  | none => rfl
  | some entry =>
      obtain ⟨path, markers⟩ := entry
      obtain ⟨own, text, isText, isRead⟩ := Tree.clean?_eq_some_iff.mp clean
      obtain rfl : path = document := own
      have different := distinctOn_of_readAll isRead
      simp only [Option.map_some, Option.getD_some, List.map_map] at different ⊢
      rw [different]
      rfl

/-- A bound occurrence is shown by its row. -/
theorem shows_of_bound {files : Path.Map (List Marker)} {occurrence : Occurrence} {id : CheckId}
    (row : (occurrence, id) ∈ (resolve files).bound)
    (isRead : Marker.read occurrence.marker.raw = .ok occurrence.marker)
    (named : ∃ relative : Path, relative.isAbsolute = false ∧
      root.join relative = occurrence.file ∧ root.relativeTo occurrence.file = relative.text) :
    CheckRow.Shows root (resolve files) (.ofResolution (resolve files) root probe)
      (occurrence.file, occurrence.marker.raw)
      (rowOf root (resolve files) (.ofResolution (resolve files) root probe) occurrence) := by
  obtain ⟨check, isBound, -⟩ := exists_binding row
  obtain ⟨outcome, means⟩ := exists_means root probe (bounded_of_mem_bound row)
  have evaluated := (getElem?_outcomes_iff files root probe).mpr means
  have isCheck : (resolve files).check id = check := by
    unfold Resolution.check
    rw [isBound, Option.getD_some]
  have isOutcome : (Evaluation.ofResolution (resolve files) root probe).outcome id = outcome := by
    unfold Evaluation.outcome
    rw [evaluated, Option.getD_some]
  unfold rowOf
  rw [checkId?_of_bound row, Option.getD_some]
  unfold CheckRow.ofOccurrence
  rw [isCheck, isOutcome]
  exact ⟨named, rfl, isRead, id, row, isBound, evaluated⟩

/-- The rows of a document show its placeholders. -/
theorem shows_documentRows {settings : Settings} {discovery : Discovery}
    (found : Discovery.ofTree tree settings root = .ok discovery)
    (listed : document ∈ discovery.documents) :
    let resolution := (Scan.ofSources (.read tree discovery.documents)).resolution
    let evaluation := Evaluation.ofResolution resolution root probe
    List.Forall₂ (CheckRow.Shows root resolution evaluation)
      ((cleanPlaceholders tree document).map (document, ·))
      (documentRows tree root resolution evaluation document) := by
  intro resolution evaluation
  rw [cleanPlaceholders_eq]
  unfold documentRows
  cases clean : tree.clean? document with
  | none => exact .nil
  | some entry =>
      obtain ⟨path, markers⟩ := entry
      obtain ⟨own, text, isText, isRead⟩ := Tree.clean?_eq_some_iff.mp clean
      obtain rfl : path = document := own
      rw [Option.map_some, Option.map_some, Option.getD_some, Option.getD_some, List.map_map,
        List.forall₂_map_left_iff, List.forall₂_map_right_iff, List.forall₂_same]
      intro marker member
      have ascending := Discovery.ascending_documents found
      have named := Discovery.exists_relative found listed
      have isOccurrence : (⟨path, marker⟩ : Occurrence) ∈
          Occurrence.ofFiles (Scan.ofSources (.read tree discovery.documents)).markers := by
        apply Scan.mem_ofFiles_iff.mpr
        refine ⟨text, markers, ?_, isRead, member⟩
        exact (Sources.mem_texts_iff (ascending.imp Path.not_same_of_lt)).mpr ⟨listed, isText⟩
      obtain ⟨id, row⟩ := exists_bound isOccurrence
      have own := (Marker.readAll_eq_ok_iff.mp isRead).2.mem_iff_read_raw.mp member
      exact shows_of_bound row own.2 named

theorem documentRows_eq_nil_iff {resolution : Resolution} {evaluation : Evaluation} :
    documentRows tree root resolution evaluation document = [] ↔
      cleanPlaceholders tree document = [] := by
  rw [cleanPlaceholders_eq]
  unfold documentRows
  cases tree.clean? document <;> simp

theorem file_of_mem_documentRows {resolution : Resolution} {evaluation : Evaluation}
    {row : CheckRow} (member : row ∈ documentRows tree root resolution evaluation document) :
    row.file = root.relativeTo document := by
  unfold documentRows at member
  cases clean : tree.clean? document with
  | none =>
      rw [clean] at member
      cases member
  | some entry =>
      rw [clean] at member
      obtain ⟨marker, -, rfl⟩ := List.mem_map.mp member
      rfl

theorem map_path_filterMap {report? : Path → Option SourceError}
    (own : ∀ document failure, report? document = some failure → failure.path = document)
    (documents : List Path) :
    (documents.filterMap report?).map SourceError.path =
      documents.filter fun document => (report? document).isSome := by
  induction documents with
  | nil => rfl
  | cons first rest ih =>
      cases reported : report? first with
      | none => simp [reported, ih]
      | some failure => simp [reported, ih, own first failure reported]

theorem perm_failures (ascending : documents.Pairwise fun left right => left < right) :
    ((Scan.ofSources (.read tree documents)).failures.map SourceError.path).Perm
      (documents.filter fun document => (tree.clean? document).isNone) := by
  have unreadable (document : Path) :
      (SourceError.ofFile? tree document).isSome =
        ((tree.clean? document).isNone && (SourceError.ofFile? tree document).isSome) := by
    unfold Tree.clean? SourceError.ofFile?
    cases tree.readText document <;> simp
  have malformed (document : Path) :
      (SourceError.ofText? tree document).isSome =
        ((tree.clean? document).isNone && !(SourceError.ofFile? tree document).isSome) := by
    unfold Tree.clean? SourceError.ofFile? SourceError.ofText?
    cases tree.readText document with
    | error error => simp
    | ok text => cases isRead : Marker.readAll text <;> simp [isRead, Except.toOption]
  rw [Scan.failures_read ascending, List.map_append,
    map_path_filterMap fun _ _ => SourceError.path_of_ofFile?,
    map_path_filterMap fun _ _ => SourceError.path_of_ofText?,
    List.filter_congr fun document _ => unreadable document,
    List.filter_congr fun document _ => malformed document]
  simp only [Bool.and_comm (Option.isNone _)]
  rw [← List.filter_filter, ← List.filter_filter]
  exact List.filter_append_perm _ _

theorem CheckReport.summaryLine_ofOutcomes (outcomes : List Outcome) :
    summaryLine (.ofOutcomes outcomes) =
      "Checked " ++ toString outcomes.length ++ " marker(s): " ++
        toString (outcomes.countP Outcome.isPassed) ++ " passed, " ++
        toString (outcomes.countP Outcome.isFailed) ++ " failed, " ++
        toString (outcomes.countP Outcome.isIndeterminate) ++ " indeterminate" := by
  rw [← Summary.total_ofOutcomes]
  rfl

theorem summary_ofScan (project : Project) (scan : Scan) (evaluation : Evaluation) :
    (CheckReport.ofScan project scan evaluation).summary =
      .ofOutcomes ((CheckReport.ofScan project scan evaluation).rows.map CheckRow.outcome) := by
  unfold CheckReport.ofScan Evaluation.summary Evaluation.rows
  rw [List.map_map]
  rfl

/-- A document at a root joined with a text is shown by that text. -/
theorem relativeTo_of_hasText {settings : Settings} {discovery : Discovery} {text : String}
    (found : Discovery.ofTree tree settings root = .ok discovery)
    (listed : document ∈ discovery.documents) (relative : (Path.mk text).isAbsolute = false)
    (located : root.join ⟨text⟩ = document) : root.relativeTo document = text := by
  obtain ⟨other, otherRelative, otherLocated, shown⟩ := Discovery.exists_relative found listed
  obtain rfl := Path.join_injective otherRelative relative (otherLocated.trans located.symm)
  rw [shown]
  exact Text.shown_utf8 text

/-- Documents at paths that are texts are shown under different names. -/
theorem nodup_map_relativeTo {settings : Settings} {discovery : Discovery}
    (found : Discovery.ofTree tree settings root = .ok discovery)
    (texts : ∀ document ∈ discovery.documents, root.HasText document) :
    (discovery.documents.map root.relativeTo).Nodup := by
  have nodup : discovery.documents.Nodup := by
    apply (Discovery.ascending_documents found).imp
    intro left right before same
    exact Path.lt_irrefl left (same ▸ before)
  apply nodup.map_on
  intro left leftListed right rightListed same
  obtain ⟨text, relative, located⟩ := texts left leftListed
  obtain ⟨otherText, otherRelative, otherLocated⟩ := texts right rightListed
  rw [relativeTo_of_hasText found leftListed relative located,
    relativeTo_of_hasText found rightListed otherRelative otherLocated] at same
  rw [← located, ← otherLocated, same]

/-- As a text, the rows of a report stand below the names of their documents. -/
theorem exists_lines {report : CheckReport} {resolution : Resolution} {evaluation : Evaluation}
    (rows : report.rows = documents.flatMap (documentRows tree root resolution evaluation)) :
    ∃ sections,
      CheckReport.AreSections
        (((documents.filter fun document => cleanPlaceholders tree document ≠ []).map
          root.relativeTo).destutter (· ≠ ·))
        report.rows sections ∧
      report.lines = CheckReport.sectionLines CheckRow.lines sections ++
        ["", CheckReport.summaryLine report.summary] := by
  let rowsOf := documentRows tree root resolution evaluation
  let shown := documents.filter fun document => cleanPlaceholders tree document ≠ []
  have split : shown.flatMap rowsOf = report.rows := by
    rw [rows]
    apply flatMap_filter_of_empty
    intro document empty
    apply documentRows_eq_nil_iff.mpr
    simpa using empty
  have each : ∀ document ∈ shown,
      rowsOf document ≠ [] ∧ ∀ row ∈ rowsOf document, row.file = root.relativeTo document := by
    intro document inside
    obtain ⟨-, nonempty⟩ := List.mem_filter.mp inside
    refine ⟨?_, fun row => file_of_mem_documentRows⟩
    intro empty
    exact of_decide_eq_true nonempty (documentRows_eq_nil_iff.mp empty)
  obtain ⟨sections, areSections, lines⟩ := CheckReport.exists_sections each
  rw [split] at areSections lines
  refine ⟨sections, areSections, ?_⟩
  unfold CheckReport.lines
  rw [lines]

/-- A report of the documents that are found is complete. -/
theorem isComplete_ofScan {project : Project} {discovery : Discovery}
    (found : Discovery.ofTree tree project.settings project.root = .ok discovery) :
    let scan := Scan.ofSources (.read tree discovery.documents)
    let evaluation := Evaluation.ofResolution scan.resolution project.root probe
    (CheckReport.ofScan project scan evaluation).IsComplete tree discovery.documents project.root
      scan.resolution evaluation := by
  intro scan evaluation
  have ascending := Discovery.ascending_documents found
  have rows := rows_ofScan tree project evaluation ascending
  have summary := summary_ofScan project scan evaluation
  constructor
  · exact ascending
  · rw [rows]
    apply forall₂_flatMap
    intro document listed
    exact shows_documentRows found listed
  · rw [summary]
    exact List.countP_map
  · rw [summary]
    exact List.countP_map
  · rw [summary]
    exact List.countP_map
  · rw [summary, Summary.total_ofOutcomes, List.length_map]
  · exact perm_failures ascending
  · obtain ⟨sections, areSections, lines⟩ := exists_lines rows
    refine ⟨sections, CheckRow.lines, areSections, fun row _ => row.isShownBy_lines, ?_⟩
    rw [lines, summary_ofScan, CheckReport.summaryLine_ofOutcomes, List.length_map,
      List.countP_map, List.countP_map, List.countP_map]
    rfl
  · intro texts names
    have different : names.Nodup :=
      (nodup_map_relativeTo found texts).sublist (List.filter_sublist.map _)
    exact ⟨different, List.destutter_of_isChain _ _ different.isChain⟩
  · have records (row : CheckRow) : row.outcome.json = row.outcome.record := by
      cases row.outcome <;> rfl
    unfold CheckReport.json CheckRow.json
    simp only [records]
    rfl

end Rows

section Output

theorem join_output_noticed (notices : List Notice) :
    String.join ((notices.map Event.noticed).map Event.output) = "" := by
  induction notices with
  | nil => rfl
  | cons notice rest ih => simpa [Event.output] using ih

theorem join_output_closing (result : Except Failure Unit) :
    String.join ((Command.closing result).map Event.output) = "" := by
  unfold Command.closing
  cases result <;> rfl

theorem join_output_printed (lines : List String) :
    String.join ((lines.map Event.printed).map Event.output) = unlines lines := by
  unfold unlines
  rw [List.map_map]
  apply congrArg String.join
  apply List.map_congr_left
  intro line _
  simp [Event.output, unlines]

theorem join_output_complained (messages : List String) (line : String → String) :
    String.join ((messages.map fun message => Event.complained (line message)).map Event.output) =
      "" := by
  induction messages with
  | nil => rfl
  | cons message rest ih => simpa [Event.output] using ih

theorem join_output_shown (report : CheckReport) (format : OutputFormat) :
    String.join ((report.shown format).map Event.output) =
      match format with
      | .json => unlines [report.json.text]
      | .text => unlines report.lines := by
  cases format with
  | json => exact join_output_printed [report.json.text]
  | text =>
      unfold CheckReport.shown
      rw [List.map_append, String.join_append, join_output_printed, join_output_complained,
        String.append_empty]

/-- A run that checks a project prints the report of its scan. -/
theorem Command.exists_printed_run_check {world : World} {root : Path} (offline : Bool)
    {project : Project} {discovery : Discovery}
    (opens : Project.openAt world.tree world.preferences root = .ok project)
    (listed : project.discover world.tree = .ok discovery)
    (usable : (project.forLookups offline).settings.probe.isUsable = true)
    {arguments : List Bytes} {format : Option OutputFormat} {verbose strict : Bool}
    (asked : CommandLine.read (world.environment "DACDOC_OFFLINE") arguments =
      .ok ⟨format, verbose, .check root offline strict⟩) :
    let scan := Scan.ofSources (.read world.tree discovery.documents)
    let evaluation := evaluationIn world (project.forLookups offline) scan
    let report := CheckReport.ofScan (project.forLookups offline) scan evaluation
    ∃ preferences, Preferences.ofFile? world.preferences = .ok preferences ∧
      (run world arguments).stdout =
        match format.getD preferences.format with
        | .json => unlines [report.json.text]
        | .text => unlines report.lines := by
  intro scan evaluation report
  obtain ⟨preferences, settings, preferred, -, rfl⟩ := Project.exists_of_openAt opens
  have found : (Project.forLookups ⟨root, settings⟩ offline).discover world.tree = .ok discovery :=
    (Project.discover_forLookups _ offline world.tree).trans listed
  obtain ⟨notices, scanned⟩ := Project.scan_of_discover found
  obtain ⟨noticed, checks⟩ := check_tells offline strict opens scanned usable
  refine ⟨preferences, preferred, ?_⟩
  rw [stdout_run asked (perform_tells preferred checks)]
  simp only [List.map_cons, List.map_append, String.join_cons, String.join_append,
    join_output_noticed, join_output_shown, join_output_closing, Event.output, String.empty_append,
    String.append_empty]
  rfl

end Output

/-- **Reports are complete.** When a project opens and its root can be listed, the report of its
checks has one row for each different placeholder of each clean document, in order, with the check
and the outcome of this occurrence; its summary counts these rows, and every other document is
reported once. A run that checks the project prints this report, in either format: as JSON all of
it, as a text the rows under the names of their documents and then the counts. -/
theorem check_report_complete {world : World} {root : Path} (offline : Bool) {project : Project}
    {discovery : Discovery}
    (opens : Project.openAt world.tree world.preferences root = .ok project)
    (listed : project.discover world.tree = .ok discovery) :
    let scan := Scan.ofSources (.read world.tree discovery.documents)
    let evaluation := Command.evaluationIn world (project.forLookups offline) scan
    let report := CheckReport.ofScan (project.forLookups offline) scan evaluation
    report.IsComplete world.tree discovery.documents root scan.resolution evaluation ∧
      ((project.forLookups offline).settings.probe.isUsable = true →
        ∀ arguments format verbose strict,
          CommandLine.read (world.environment "DACDOC_OFFLINE") arguments =
            .ok ⟨format, verbose, .check root offline strict⟩ →
          ∃ preferences, Preferences.ofFile? world.preferences = .ok preferences ∧
            (Command.run world arguments).stdout =
              match format.getD preferences.format with
              | .json => unlines [report.json.text]
              | .text => unlines report.lines) := by
  intro scan evaluation report
  constructor
  · obtain ⟨-, settings, -, -, rfl⟩ := Project.exists_of_openAt opens
    have found := (Project.discover_forLookups ⟨root, settings⟩ offline _).trans listed
    exact isComplete_ofScan (Project.ofTree_of_discover found)
  · intro usable arguments format verbose strict asked
    exact Command.exists_printed_run_check offline opens listed usable asked

/-- A document with two placeholders is shown in either format. -/
theorem check_report_complete_for_selfLinking :
    Project.openAt selfLinking.tree selfLinking.preferences ⟨"."⟩ = .ok ⟨⟨"."⟩, {}⟩ ∧
      Project.discover ⟨⟨"."⟩, {}⟩ selfLinking.tree = .ok ⟨[⟨"./a.md"⟩], []⟩ ∧
      let project := Project.forLookups ⟨⟨"."⟩, {}⟩ false
      let evaluation := Command.evaluationIn selfLinking project selfLinkingScan
      let report := CheckReport.ofScan project selfLinkingScan evaluation
      report.IsComplete selfLinking.tree [⟨"./a.md"⟩] ⟨"."⟩ selfLinkingScan.resolution evaluation ∧
        (Command.run selfLinking ["check"]).stdout = unlines report.lines ∧
        (Command.run selfLinking ["--format", "json", "check", "--strict"]).stdout =
          unlines [report.json.text] := by
  have asked : CommandLine.read (selfLinking.environment "DACDOC_OFFLINE") ["check"] =
      .ok ⟨none, false, .check ⟨"."⟩ false false⟩ := by
    decide +kernel
  have askedInJson : CommandLine.read (selfLinking.environment "DACDOC_OFFLINE")
      ["--format", "json", "check", "--strict"] =
        .ok ⟨some .json, false, .check ⟨"."⟩ false true⟩ := by
    decide +kernel
  have usable : (Project.forLookups ⟨⟨"."⟩, {}⟩ false).settings.probe.isUsable = true := by
    decide +kernel
  obtain ⟨complete, shown⟩ :=
    check_report_complete false openAt_selfLinking discover_selfLinking
  refine ⟨openAt_selfLinking, discover_selfLinking, complete, ?_, ?_⟩
  · obtain ⟨preferences, preferred, printed⟩ := shown usable _ _ _ _ asked
    obtain rfl : ({} : Preferences) = preferences := Except.ok.inj preferred
    exact printed
  · obtain ⟨preferences, preferred, printed⟩ := shown usable _ _ _ _ askedInJson
    exact printed

/-- A row of a marker whose test nobody knows. -/
theorem CheckRow.Shows.outcome_of_unrecognized {files : Path.Map (List Marker)} {root : Path}
    {probe : Probe} {place : Path × String} {row : CheckRow}
    (shows : Shows root (resolve files) (.ofResolution (resolve files) root probe) place row)
    (primitive : row.marker.kind = .primitive) (test : row.marker.testId ≠ Marker.defaultTestId) :
    row.outcome = .indeterminate (UnknownReason.unrecognizedTest row.marker.testId).message := by
  obtain ⟨id, bound, -, evaluated⟩ := shows.bound
  have means := (getElem?_outcomes_iff files root probe).mp evaluated
  exact means.unique (.unknown (checks_of_unrecognized bound primitive test))

/-- A placeholder whose test nobody knows. -/
def unknownTestText : String := "!DACDOC b;test=x!"

/-- Its marker. -/
def unknownTest : Marker where
  raw := unknownTestText
  id := none
  testId := "x"
  claim := .primitive "b"

/-- Two documents with this placeholder, in a world whose settings are the default ones. -/
structure World.HoldsTwice (world : World) (first second : Path) : Prop where
  opens : Project.openAt world.tree world.preferences ⟨"."⟩ = .ok ⟨⟨"."⟩, {}⟩
  listed : Project.discover ⟨⟨"."⟩, {}⟩ world.tree = .ok ⟨[first, second], []⟩
  first : world.tree.readText first = .ok unknownTestText
  second : world.tree.readText second = .ok unknownTestText

/-- A world with two such documents next to each other. -/
def twoNamed (first second : Name) (apart : first ≠ second) : World where
  tree := {
    rows := [([first], .file unknownTestText.toUTF8), ([second], .file unknownTestText.toUTF8)]
    workingDirectory := []
    distinct := by simpa using apart
    inside := by
      simp only [List.forall_mem_cons]
      exact ⟨⟨_, [], rfl, rfl⟩, ⟨_, [], rfl, rfl⟩, by simp⟩ }
  preferences := none
  environment := fun _ => none
  fetch := fun _ => .passed

section TwoNamed

variable {world : World} {left right : Path} {first second : Name} {apart : first ≠ second}

theorem readAll_unknownTestText : Marker.readAll unknownTestText = .ok [unknownTest] := by
  decide +kernel

theorem cleanPlaceholders_of_unknownTest {tree : Tree} {document : Path}
    (isText : tree.readText document = .ok unknownTestText) :
    cleanPlaceholders tree document = [unknownTestText] := by
  unfold cleanPlaceholders
  rw [isText]
  decide +kernel

/-- Such a document has one row. -/
theorem exists_row_of_unknownTest {tree : Tree} {settings : Settings} {root document : Path}
    {discovery : Discovery} {probe : Probe}
    (found : Discovery.ofTree tree settings root = .ok discovery)
    (listed : document ∈ discovery.documents)
    (isText : tree.readText document = .ok unknownTestText) :
    let resolution := (Scan.ofSources (.read tree discovery.documents)).resolution
    let evaluation := Evaluation.ofResolution resolution root probe
    ∃ row : CheckRow, documentRows tree root resolution evaluation document = [row] ∧
      row.file = root.relativeTo document ∧ row.marker = unknownTest ∧
      row.outcome = .indeterminate "unrecognized test 'x'" := by
  intro resolution evaluation
  have shows := @shows_documentRows _ _ probe _ _ _ found listed
  rw [cleanPlaceholders_of_unknownTest isText] at shows
  obtain ⟨row, rest, own, others, rows⟩ := List.forall₂_cons_left_iff.mp shows
  obtain rfl := List.forall₂_nil_left_iff.mp others
  have isRead : Marker.read unknownTestText = .ok unknownTest := by decide +kernel
  have marker : row.marker = unknownTest := Except.ok.inj (own.isRead.symm.trans isRead)
  refine ⟨row, rows, file_of_mem_documentRows (rows ▸ List.mem_singleton_self row), marker, ?_⟩
  have outcome := own.outcome_of_unrecognized (by rw [marker]; rfl) (by rw [marker]; decide +kernel)
  rw [outcome, marker]
  rfl

/-- The second document has a header of its own only if it is shown in another way than the first
one. -/
theorem stdout_of_holdsTwice (holds : world.HoldsTwice left right) {arguments : List Bytes}
    (asked : CommandLine.read (world.environment "DACDOC_OFFLINE") arguments =
      .ok ⟨some .text, false, .check ⟨"."⟩ true false⟩) :
    let shown := Path.relativeTo ⟨"."⟩ left
    let otherShown := Path.relativeTo ⟨"."⟩ right
    let lines := ["  [????] !DACDOC b;test=x!", "         unrecognized test 'x'"]
    (Command.run world arguments).stdout = unlines (shown :: lines ++
      (if shown = otherShown then [] else [otherShown]) ++ lines ++
      ["", "Checked 2 marker(s): 0 passed, 0 failed, 2 indeterminate"]) := by
  intro shown otherShown lines
  let project := Project.forLookups ⟨⟨"."⟩, {}⟩ true
  have found := Project.ofTree_of_discover
    ((Project.discover_forLookups ⟨⟨"."⟩, {}⟩ true world.tree).trans holds.listed)
  obtain ⟨one, oneRows, oneFile, oneMarker, oneOutcome⟩ :=
    @exists_row_of_unknownTest _ _ _ _ _ (project.settings.probe.probe world.tree world.fetch)
      found List.mem_cons_self holds.first
  obtain ⟨two, twoRows, twoFile, twoMarker, twoOutcome⟩ :=
    @exists_row_of_unknownTest _ _ _ _ _ (project.settings.probe.probe world.tree world.fetch)
      found (List.mem_cons_of_mem _ List.mem_cons_self) holds.second
  obtain ⟨preferences, -, printed⟩ :=
    Command.exists_printed_run_check true holds.opens holds.listed (by decide +kernel) asked
  let scan := Scan.ofSources (.read world.tree [left, right])
  let evaluation := Command.evaluationIn world project scan
  have rows : (CheckReport.ofScan project scan evaluation).rows = [one, two] := by
    rw [rows_ofScan world.tree project evaluation (Discovery.ascending_documents found),
      List.flatMap_cons, List.flatMap_singleton]
    exact congrArg₂ _ oneRows twoRows
  have rowLines (row : CheckRow) (marker : row.marker = unknownTest)
      (outcome : row.outcome = .indeterminate "unrecognized test 'x'") : row.lines = lines := by
    unfold CheckRow.lines
    rw [marker, outcome]
    decide +kernel
  have names : CheckReport.rowLines none [one, two] =
      shown :: lines ++ (if shown = otherShown then [] else [otherShown]) ++ lines := by
    simp only [CheckReport.rowLines, oneFile, twoFile, rowLines one oneMarker oneOutcome,
      rowLines two twoMarker twoOutcome, reduceCtorEq, if_false, Option.some.injEq,
      List.append_nil, List.append_assoc, List.singleton_append]
    rfl
  have counts : (CheckReport.ofScan project scan evaluation).summary = ⟨0, 0, 2⟩ := by
    rw [summary_ofScan, rows]
    simp only [List.map_cons, List.map_nil, oneOutcome, twoOutcome]
    decide +kernel
  rw [printed]
  change unlines (CheckReport.lines (CheckReport.ofScan project scan evaluation)) = _
  unfold CheckReport.lines
  rw [rows, names, counts]
  rfl

/-- Names of documents, in order, have the placeholder twice. -/
theorem holdsTwice_twoNamed
    (documents : ∀ name ∈ [first, second],
      ({} : Settings).isDocument (Path.join ⟨"."⟩ ⟨name.bytes⟩) = true ∧
        name.isTooLong = false ∧ Tree.byteFault? (Path.join ⟨"."⟩ ⟨name.bytes⟩) = none)
    (before : Path.join ⟨"."⟩ ⟨first.bytes⟩ < Path.join ⟨"."⟩ ⟨second.bytes⟩)
    (free : (twoNamed first second apart).tree.find? [Settings.entryName] = none) :
    (twoNamed first second apart).HoldsTwice (Path.join ⟨"."⟩ ⟨first.bytes⟩)
      (Path.join ⟨"."⟩ ⟨second.bytes⟩) := by
  have entered : (twoNamed first second apart).tree.directory ⟨"."⟩ = .ok [] :=
    directory_here rfl
  have isText (name : Name) (member : name ∈ [first, second]) :
      (twoNamed first second apart).tree.readText (Path.join ⟨"."⟩ ⟨name.bytes⟩) =
        .ok unknownTestText := by
    obtain ⟨-, short, sound⟩ := documents name member
    have found : (twoNamed first second apart).tree.find? [name] =
        some (.file unknownTestText.toUTF8) := by
      apply Tree.find?_of_mem_rows
      have cases : name = first ∨ name = second := by simpa using member
      rcases cases with rfl | rfl <;> simp [twoNamed]
    apply Tree.readText_of_locate
    rw [Tree.locate_join entered (by simp [found]), sound, found]
    exact if_neg (by simp [short])
  have listed := Tree.list_of_directory entered
  obtain ⟨⟨firstDocument, -⟩, ⟨secondDocument, -⟩, -⟩ :=
    List.forall_mem_cons.mp documents |>.imp_right List.forall_mem_cons.mp
  have entries : (twoNamed first second apart).tree.entriesIn [] =
      [(first, .file unknownTestText.toUTF8), (second, .file unknownTestText.toUTF8)] := rfl
  rw [entries] at listed
  constructor
  · exact Project.openAt_of_absent entered rfl (Tree.isPresent_join_of_free entered free)
  · unfold Project.discover
    rw [Discovery.ofTree_of_flat listed rfl]
    simp only [List.filterMap_cons, Discovery.document?, firstDocument, secondDocument,
      Discovery.leftOut?, if_true, List.filterMap_nil]
    rw [Discovery.sorted_of_ascending (List.pairwise_pair.mpr before),
      Discovery.sorted_of_ascending .nil]
    rfl
  · exact isText first List.mem_cons_self
  · exact isText second (List.mem_cons_of_mem _ List.mem_cons_self)

end TwoNamed

/-- Two names in another encoding, which are no texts. -/
def thornName : Name := ⟨0xFE :: Text.utf8 ".md", by decide +kernel⟩

def diaeresisName : Name := ⟨0xFF :: Text.utf8 ".md", by decide +kernel⟩

/-- Two documents whose names are no texts. -/
def strayPair : World := twoNamed thornName diaeresisName (by decide +kernel)

/-- A name with a line feed. -/
def brokenName : Name := ⟨"b\na.md", by decide +kernel⟩

/-- Two documents, one of which has the name of the other on its second line. -/
def brokenPair : World := twoNamed selfLinkingName brokenName (by decide +kernel)

/-- As a text, the report does not always tell documents apart. Two of them whose names are no texts
are shown alike and stand below one name. A name with a line feed takes two lines, and the second
one can be the name of another document. -/
theorem names_fall_short :
    let rows := ["  [????] !DACDOC b;test=x!", "         unrecognized test 'x'"]
    let counts := ["", "Checked 2 marker(s): 0 passed, 0 failed, 2 indeterminate"]
    let asked : List Bytes := ["--format", "text", "check", "--offline"]
    Marker.readAll unknownTestText = .ok [unknownTest] ∧
      strayPair.HoldsTwice ⟨Text.utf8 "./" ++ thornName.bytes⟩
        ⟨Text.utf8 "./" ++ diaeresisName.bytes⟩ ∧
      (Command.run strayPair asked).stdout = unlines (["\uFFFD.md"] ++ rows ++ rows ++ counts) ∧
      brokenPair.HoldsTwice ⟨"./a.md"⟩ ⟨"./b\na.md"⟩ ∧
      (Command.run brokenPair asked).stdout =
        unlines (["a.md"] ++ rows ++ ["b", "a.md"] ++ rows ++ counts) := by
  intro rows counts asked
  have strays : strayPair.HoldsTwice ⟨Text.utf8 "./" ++ thornName.bytes⟩
      ⟨Text.utf8 "./" ++ diaeresisName.bytes⟩ :=
    holdsTwice_twoNamed (by decide +kernel) (by decide +kernel) (by decide +kernel)
  have broken : brokenPair.HoldsTwice ⟨"./a.md"⟩ ⟨"./b\na.md"⟩ :=
    holdsTwice_twoNamed (by decide +kernel) (by decide +kernel) (by decide +kernel)
  refine ⟨readAll_unknownTestText, strays, ?_, broken, ?_⟩
  · rw [stdout_of_holdsTwice strays (by decide +kernel)]
    decide +kernel
  · rw [stdout_of_holdsTwice broken (by decide +kernel)]
    decide +kernel

end DocMarkers
