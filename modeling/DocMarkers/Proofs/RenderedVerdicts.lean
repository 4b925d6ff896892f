import DocMarkers.Proofs.Bindings
import DocMarkers.Proofs.ScannedDocuments
import DocMarkers.Proofs.WorstLeaf

/-! # The verdicts that a document shows

Every occurrence of a project has a verdict, which is that of the one check bound to it
(`exists_hasVerdict`). A look-up by file and text finds the verdict of that occurrence and of no
other, however the file is spelled (`Rendering.fileOutcome?_of_hasVerdict`).

So every placeholder of such a document gives way to its own verdict, and a document with a
placeholder that cannot be read stays as it is, also where other documents hold the same text
(`own_verdicts_shown`).
-/

namespace DocMarkers

/-- The verdict over a marker of a file: its occurrence, in whatever spelling of the file, is bound
to one check, and this is what came out of it. -/
def HasVerdict (resolution : Resolution) (evaluation : Evaluation) (occurrence : Occurrence)
    (outcome : Outcome) : Prop :=
  ∃ id, (occurrence, id) ∈ resolution.bound ∧
    (∀ row ∈ resolution.bound, row.1.Same occurrence → row = (occurrence, id)) ∧
    evaluation.outcomes[id.index]? = some outcome

/-- The badge that stands for an outcome. -/
inductive Badges.StandsFor (badges : Badges) : Outcome → String → Prop where
  | passed : badges.StandsFor .passed badges.passed
  | failed (detail : String) : badges.StandsFor (.failed detail) badges.failed
  | indeterminate (detail : String) :
      badges.StandsFor (.indeterminate detail) badges.indeterminate

theorem Badges.standsFor_ofOutcome (badges : Badges) (outcome : Outcome) :
    badges.StandsFor outcome (badges.ofOutcome outcome) := by
  cases outcome with
  | passed => exact .passed
  | failed detail => exact .failed detail
  | indeterminate detail => exact .indeterminate detail

/-- What a placeholder of the document at `path` gives way to when its own verdict is shown. -/
inductive ShowsVerdict (resolution : Resolution) (evaluation : Evaluation) (badges : Badges)
    (path : Path) (raw : String) : String → Prop where
  /-- The argument of the marker, a space, and the badge. -/
  | captioned {marker : Marker} {argument badge : String} {outcome : Outcome}
      (isRead : Marker.read raw = .ok marker) (caption : marker.argument? = some argument)
      (verdict : HasVerdict resolution evaluation ⟨path, marker⟩ outcome)
      (standsFor : badges.StandsFor outcome badge) :
      ShowsVerdict resolution evaluation badges path raw (argument ++ " " ++ badge)
  /-- The badge alone, where the marker has no argument. -/
  | bare {marker : Marker} {badge : String} {outcome : Outcome}
      (isRead : Marker.read raw = .ok marker) (bare : marker.argument? = none)
      (verdict : HasVerdict resolution evaluation ⟨path, marker⟩ outcome)
      (standsFor : badges.StandsFor outcome badge) :
      ShowsVerdict resolution evaluation badges path raw badge

/-- The argument of a marker is shown first. -/
theorem ShowsVerdict.exists_of_argument {resolution : Resolution} {evaluation : Evaluation}
    {badges : Badges} {path : Path} {raw shown argument : String}
    (shows : ShowsVerdict resolution evaluation badges path raw shown)
    (caption : (Marker.read raw).toOption.bind Marker.argument? = some argument) :
    ∃ badge, shown = argument ++ " " ++ badge := by
  cases shows with
  | captioned isRead ownCaption =>
      rw [isRead] at caption
      obtain rfl := Option.some.inj (ownCaption.symm.trans caption)
      exact ⟨_, rfl⟩
  | bare isRead bare =>
      rw [isRead] at caption
      cases bare.symm.trans caption

section Verdicts

variable {files : Path.Map (List Marker)} {occurrence : Occurrence} {id : CheckId}

/-- Every occurrence of a project has a verdict. -/
theorem exists_hasVerdict (root : Path) (probe : Probe)
    (member : occurrence ∈ Occurrence.ofFiles files) :
    ∃ outcome, HasVerdict (resolve files) (.ofResolution (resolve files) root probe) occurrence
      outcome := by
  obtain ⟨id, row⟩ := exists_bound member
  obtain ⟨outcome, means⟩ := exists_means root probe (bounded_of_mem_bound row)
  refine ⟨outcome, id, row, ?_, (getElem?_outcomes_iff files root probe).mpr means⟩
  intro other otherRow same
  exact row_unique otherRow row same

end Verdicts

namespace Rendering

variable {files : Path.Map (List Marker)} {evaluation : Evaluation} {file : Path} {raw : String}

/-- The outcome that is looked up for a placeholder is its own, however the file is spelled. -/
theorem fileOutcome?_of_hasVerdict {occurrence : Occurrence} {outcome : Outcome}
    (verdict : HasVerdict (resolve files) evaluation occurrence outcome)
    (spelled : occurrence.file.Same file) :
    fileOutcome? (resolve files) evaluation file occurrence.marker.raw = some outcome := by
  obtain ⟨id, row, alone, known⟩ := verdict
  unfold fileOutcome?
  rw [find?_bound row]
  · change some (evaluation.outcome id) = some outcome
    unfold Evaluation.outcome
    rw [known, Option.getD_some]
  · simp [spelled]
  · intro other _ matched
    have parts := Bool.and_eq_true_iff.mp matched
    have sameFile : other.1.file.Same file := of_decide_eq_true parts.1
    exact ⟨Eq.trans sameFile (Eq.symm spelled), beq_iff_eq.mp parts.2⟩

/-- Nothing is looked up in the place of a text that the file has no occurrence of. -/
theorem fileOutcome?_eq_none
    (absent : ∀ occurrence ∈ Occurrence.ofFiles files, ¬ occurrence.file.Same file) :
    fileOutcome? (resolve files) evaluation file raw = none := by
  unfold fileOutcome?
  rw [Option.map_eq_none_iff, List.find?_eq_none]
  rintro ⟨occurrence, id⟩ row passes
  have sameFile := of_decide_eq_true (Bool.and_eq_true_iff.mp passes).1
  exact absent occurrence (mem_ofFiles_of_bound row) sameFile

/-- A placeholder with a verdict gives way to it. -/
theorem showsVerdict_replacement {resolution : Resolution} {badges : Badges} {path : Path}
    {marker : Marker} {outcome : Outcome} (isRead : Marker.read raw = .ok marker)
    (verdict : HasVerdict resolution evaluation ⟨path, marker⟩ outcome) :
    ShowsVerdict resolution evaluation badges path raw (replacement badges raw outcome) := by
  have standsFor := badges.standsFor_ofOutcome outcome
  rw [replacement_of_read isRead]
  cases caption : marker.argument? with
  | some argument => exact .captioned isRead caption verdict standsFor
  | none => exact .bare isRead caption verdict standsFor

end Rendering

section Documents

variable {sources : Sources} {path file : Path} {text : String} {evaluation : Evaluation}

/-- A document that can be read to the end shows the verdict of each placeholder. -/
theorem showsVerdict_of_isRead (root : Path) (probe : Probe) (badges : Badges)
    {markers : List Marker} (listed : (path, text) ∈ sources.texts.entries)
    (isRead : Marker.readAll text = .ok markers) (spelled : path.Same file) {raw : String}
    (member : raw ∈ Marker.placeholders text) :
    ∃ outcome,
      Rendering.fileOutcome? (Scan.ofSources sources).resolution
        (.ofResolution (Scan.ofSources sources).resolution root probe) file raw = some outcome ∧
      ShowsVerdict (Scan.ofSources sources).resolution
        (.ofResolution (Scan.ofSources sources).resolution root probe) badges path raw
        (Rendering.replacement badges raw outcome) := by
  obtain ⟨readable, areRead⟩ := Marker.readAll_eq_ok_iff.mp isRead
  obtain ⟨marker, markerRead⟩ := readable raw member
  have inside : marker ∈ markers := (areRead.mem_iff marker).mpr ⟨raw, member, markerRead⟩
  have occurs : ⟨path, marker⟩ ∈ Occurrence.ofFiles (Scan.ofSources sources).markers :=
    Scan.mem_ofFiles_iff.mpr ⟨text, markers, listed, isRead, inside⟩
  obtain ⟨outcome, verdict⟩ := exists_hasVerdict root probe occurs
  have found := Rendering.fileOutcome?_of_hasVerdict verdict spelled
  rw [Marker.raw_of_read markerRead] at found
  exact ⟨outcome, found, Rendering.showsVerdict_replacement markerRead verdict⟩

/-- Of the one cut of a document that can be read to the end, each placeholder gives way to its own
verdict. -/
theorem exists_replace_of_isRead (root : Path) (probe : Probe) (badges : Badges)
    {markers : List Marker} (listed : (path, text) ∈ sources.texts.entries)
    (isRead : Marker.readAll text = .ok markers) (spelled : path.Same file) :
    let resolution := (Scan.ofSources sources).resolution
    let evaluation := Evaluation.ofResolution resolution root probe
    ∃ (layout : Layout) (shown : String → String), layout.Cuts text.toList ∧
      Rendering.render (Rendering.fileOutcome? resolution evaluation file) badges text =
        String.ofList (layout.replace shown) ∧
      ∀ raw ∈ layout.placeholders,
        ShowsVerdict resolution evaluation badges path raw (shown raw) := by
  intro resolution evaluation
  refine ⟨Layout.ofText text.toList, _, Layout.cuts_ofText _,
    Rendering.render_eq_replace _ badges text, ?_⟩
  intro raw member
  obtain ⟨outcome, found, shows⟩ :=
    showsVerdict_of_isRead root probe badges listed isRead spelled member
  rw [found]
  exact shows

/-- A document with a placeholder that cannot be read is shown as it is. -/
theorem render_of_malformed (badges : Badges) {error : MarkerError}
    (listed : (path, text) ∈ sources.texts.entries) (malformed : Marker.readAll text = .error error)
    (spelled : path.Same file) :
    Rendering.render
      (Rendering.fileOutcome? (Scan.ofSources sources).resolution evaluation file) badges text =
        text := by
  have absent : ∀ occurrence ∈ Occurrence.ofFiles (Scan.ofSources sources).markers,
      ¬ occurrence.file.Same file := by
    intro occurrence member same
    have samePath : occurrence.file.Same path := Eq.trans same (Eq.symm spelled)
    exact Scan.not_mem_ofFiles_of_malformed listed malformed samePath member
  have kept : (Layout.ofText text.toList).replace (fun raw =>
      (Rendering.fileOutcome? (Scan.ofSources sources).resolution evaluation file raw).elim raw
        (Rendering.replacement badges raw)) = (Layout.ofText text.toList).replace id := by
    apply Layout.replace_congr
    intro raw _
    have unknown : Rendering.fileOutcome? (Scan.ofSources sources).resolution evaluation file raw =
        none := Rendering.fileOutcome?_eq_none absent
    rw [unknown]
    rfl
  rw [Rendering.render_eq_replace, kept, Layout.replace_id, Layout.text_ofText,
    String.ofList_toList]

end Documents

/-- **Rendering.** In a document whose placeholders can all be read, every placeholder of the one
cut of the text gives way to its own verdict and the rest stays; a document with a placeholder that
cannot be read is shown as it is. The file may be spelled in any way. -/
theorem own_verdicts_shown {sources : Sources} {path file : Path} {text : String} (root : Path)
    (probe : Probe) (badges : Badges) (listed : (path, text) ∈ sources.texts.entries)
    (spelled : path.Same file) :
    let resolution := (Scan.ofSources sources).resolution
    let evaluation := Evaluation.ofResolution resolution root probe
    let rendered :=
      Rendering.render (Rendering.fileOutcome? resolution evaluation file) badges text
    (∀ markers, Marker.readAll text = .ok markers → ∃ (layout : Layout) (shown : String → String),
      layout.Cuts text.toList ∧ rendered = String.ofList (layout.replace shown) ∧
        ∀ raw ∈ layout.placeholders,
          ShowsVerdict resolution evaluation badges path raw (shown raw)) ∧
      ∀ error, Marker.readAll text = .error error → rendered = text := by
  intro resolution evaluation rendered
  constructor
  · intro markers isRead
    exact exists_replace_of_isRead root probe badges listed isRead spelled
  · intro error malformed
    exact render_of_malformed badges listed malformed spelled

/-- A document with a placeholder that comes twice, one without an argument, and an opening that
nothing closes. -/
def readableDocument : Path × String :=
  (⟨"a.md"⟩, "One !DACDOC x.md;id=x!, all !DACDOC ids=x!, one !DACDOC x.md;id=x! !DACDOC")

/-- A document that repeats one of these placeholders beside one without any clause. -/
def malformedDocument : Path × String :=
  (⟨"b.md"⟩, "One !DACDOC x.md;id=x!, none !DACDOC!")

/-- A project of both. -/
def mixed : Sources where
  texts := { entries := [readableDocument, malformedDocument], ascending := by decide +kernel }
  failures := []

theorem own_verdicts_shown_beside_malformed :
    readableDocument ∈ mixed.texts.entries ∧ readableDocument.1.Same ⟨"a.md/"⟩ ∧
      malformedDocument ∈ mixed.texts.entries ∧ malformedDocument.1.Same ⟨"b.md"⟩ ∧
      ∀ root probe badges,
      let resolution := (Scan.ofSources mixed).resolution
      let evaluation := Evaluation.ofResolution resolution root probe
      let outcome? := Rendering.fileOutcome? resolution evaluation
      (∃ (layout : Layout) (shown : String → String), layout.Cuts readableDocument.2.toList ∧
        Rendering.render (outcome? ⟨"a.md/"⟩) badges readableDocument.2 =
          String.ofList (layout.replace shown) ∧
        ∀ raw ∈ layout.placeholders,
          ShowsVerdict resolution evaluation badges readableDocument.1 raw (shown raw)) ∧
      Rendering.render (outcome? ⟨"b.md"⟩) badges malformedDocument.2 = malformedDocument.2 := by
  have readable : readableDocument ∈ mixed.texts.entries := List.mem_cons_self
  have malformed : malformedDocument ∈ mixed.texts.entries :=
    List.mem_cons_of_mem _ List.mem_cons_self
  have isRead : Marker.readAll readableDocument.2 = .ok
      [⟨"!DACDOC x.md;id=x!", some "x", Marker.defaultTestId, .primitive "x.md"⟩,
        ⟨"!DACDOC ids=x!", none, Marker.defaultTestId, .composite none ["x"] (by decide)⟩] := by
    decide +kernel
  have fails : Marker.readAll malformedDocument.2 = .error (.missingArgument "!DACDOC!") := by
    decide +kernel
  refine ⟨readable, rfl, malformed, rfl, ?_⟩
  intro root probe badges
  exact ⟨(own_verdicts_shown root probe badges readable rfl).1 _ isRead,
    (own_verdicts_shown root probe badges malformed rfl).2 _ fails⟩

end DocMarkers
