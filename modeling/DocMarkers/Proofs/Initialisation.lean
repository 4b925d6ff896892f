import DocMarkers.Proofs.Listings
import DocMarkers.Proofs.MadeFiles
import DocMarkers.Proofs.SlashedPaths

/-! # Setting a project up

The settings file of a new project spells out the default settings (`Settings.read_template`) and
holds no placeholder (`Settings.readAll_template`). So a project opens with the file as it did
without it, and where the file is found as a document it has nothing to show.

Setting a project up makes this file or, when there are settings, nothing
(`Command.run_init_cases`). Afterwards all is as before (`init_is_neutral`), with one exception: the
file can be made at the end of a link, as a document that nothing can read, and then it is reported
(`listing_grows_in_dangling`).
-/

namespace DocMarkers

namespace Settings

theorem toList_template :
    template.toList = templateLines.flatMap fun line => line.toList ++ ['\n'] :=
  String.toList_ofList

theorem ofToml?_template : (Toml.read? template).bind ofToml? = some {} := by
  unfold Toml.read?
  rw [toList_template]
  decide +kernel

theorem read_of_sound {path : Path} {text : String} {settings : Settings}
    (entries : (Toml.read? text).bind ofToml? = some settings) (sound : settings.fault? = none) :
    read path text = .ok settings := by
  unfold read
  rw [entries]
  dsimp only
  rw [sound]

/-- The text of a new settings file says what holds without one. -/
theorem read_template (path : Path) : read path template = .ok {} :=
  read_of_sound ofToml?_template (by decide +kernel)

/-- It holds no placeholder. -/
theorem readAll_template : Marker.readAll template = .ok [] := by
  have none : Marker.placeholders template = [] := by
    unfold Marker.placeholders
    rw [toList_template]
    decide +kernel
  unfold Marker.readAll
  rw [none]
  rfl

end Settings

open Search Discovery

/-- A settings file made at the end of a link is found as a document, and cannot be read. -/
structure MakesUnreadable (before after : Tree) (root document : Path) (error : FileError) :
    Prop where
  /-- The name of the settings file was that of a link. -/
  linked : ∃ above target, before.directory root = .ok above ∧
    before.find? (Settings.entryName :: above) = some (.link target)
  found : Finds after {} root document
  new : ¬ Finds before {} root document
  unreadable : after.readText document = .error error

/-- As JSON, a listing has one report more than before: that of the settings file, which was made at
the end of a link as a document that cannot be read. -/
def ReportsMade (before after : Tree) (root : Path) (old new : String) : Prop :=
  ∃ document error scan first rest, MakesUnreadable before after root document error ∧
    scan.failures = first ++ rest ∧
      old = unlines [(Listing.json root scan).alphabetical.text] ∧
        new = unlines [(Listing.json root
          { scan with failures := first ++ .unreadable document error :: rest }).alphabetical.text]

section Made

variable {before after : Tree} {place above : Location} {root : Path}

/-- The settings file itself is no document. -/
theorem not_isDocument_entryName (root : Path) :
    ({} : Settings).isDocument (root.join ⟨Settings.entryName.bytes⟩) = false := by
  unfold Settings.isDocument Path.extension?
  rw [fileName?_join]
  decide +kernel

theorem Settings.ofRoot_of_template
    (located : after.locate (fileOf root) = .ok (place, .file template.toUTF8)) :
    ofRoot after root = .ok {} := by
  have present : after.isPresent (fileOf root) = true := by
    unfold Tree.isPresent
    rw [located]
    rfl
  have isText : after.readText (fileOf root) = .ok template := Tree.readText_of_locate located
  unfold ofRoot
  dsimp only
  rw [if_pos present, isText]
  dsimp only
  rw [read_template]

/-- A project opens as without the file. -/
theorem Project.openAt_of_made (preferences : Option PreferencesFile)
    (isStaged : Tree.IsStaged before place Settings.template.toUTF8 after)
    (absent : before.isPresent (Settings.fileOf root) = false)
    (located : after.locate (Settings.fileOf root) = .ok (place, .file Settings.template.toUTF8)) :
    openAt after preferences root = openAt before preferences root := by
  unfold openAt
  rw [isStaged.isDirectory_eq, Settings.ofRoot_of_absent absent,
    Settings.ofRoot_of_template located]

/-- A file that is found as a document stands at the end of a link. -/
theorem exists_link_of_finds {names : List Name}
    (isStaged : Tree.IsStaged before place Settings.template.toUTF8 after)
    (located : after.locate (Settings.fileOf root) = .ok (place, .file Settings.template.toUTF8))
    (entered : before.directory root = .ok above) (atPlace : names.reverse ++ above = place)
    (finds : Finds after {} root (pathBelow root names)) :
    ∃ target, before.find? (Settings.entryName :: above) = some (.link target) := by
  by_contra plain
  have real : ∀ target, before.find? (Settings.entryName :: above) ≠ some (.link target) :=
    not_exists.mp plain
  have enteredAfter := isStaged.directory_iff.mpr entered
  have own : after.locate (root.join ⟨Settings.entryName.bytes⟩) =
    .ok (place, .file Settings.template.toUTF8) := located
  rw [Tree.locate_join enteredAfter (isStaged.not_link real)] at own
  have same : Settings.entryName :: above = place := by
    split at own
    · cases own
    · split at own
      · cases own
      · split at own
        · cases own
        · exact (Prod.mk.inj (Except.ok.inj own)).1
  have single : names.reverse = [Settings.entryName] :=
    List.append_cancel_right (atPlace.trans same.symm)
  obtain rfl : names = [Settings.entryName] := by
    rw [← List.reverse_reverse names, single]
    rfl
  obtain ⟨-, -, -, -, -, -, -, isDocument⟩ := exists_names_of_finds finds enteredAfter
  cases (not_isDocument_entryName root).symm.trans isDocument

/-- Scanning comes to the same as without the file, but for the report of the file itself. -/
theorem exists_scans_of_made
    (isStaged : Tree.IsStaged before place Settings.template.toUTF8 after)
    (located : after.locate (Settings.fileOf root) = .ok (place, .file Settings.template.toUTF8))
    (entered : before.directory root = .ok above) :
    ∃ old new oldNotices newNotices,
      Project.scan ⟨root, {}⟩ before = .ok (old, oldNotices) ∧
        Project.scan ⟨root, {}⟩ after = .ok (new, newNotices) ∧ new.resolution = old.resolution ∧
          (new.failures = old.failures ∨ ∃ document error first rest,
            MakesUnreadable before after root document error ∧ old.failures = first ++ rest ∧
              new.failures = first ++ .unreadable document error :: rest) := by
  have enteredAfter := isStaged.directory_iff.mpr entered
  obtain ⟨discovery, found⟩ := exists_ofTree_of_directory {} entered
  obtain ⟨later, foundLater⟩ := exists_ofTree_of_directory {} enteredAfter
  have discovered {tree : Tree} {other : Discovery} (isFound : ofTree tree {} root = .ok other) :
      Project.discover ⟨root, {}⟩ tree = .ok other := by
    unfold Project.discover
    rw [isFound]
    rfl
  obtain ⟨oldNotices, scanned⟩ := Project.scan_of_discover (discovered found)
  obtain ⟨newNotices, scannedLater⟩ := Project.scan_of_discover (discovered foundLater)
  refine ⟨_, _, oldNotices, newNotices, scanned, scannedLater, ?_⟩
  have sameTexts : Sources.read after discovery.documents = .read before discovery.documents := by
    apply Sources.read_congr
    intro document member
    unfold Tree.readText
    rw [isStaged.locate_of_finds ((mem_documents_iff_finds found).mp member)]
  rcases isStaged.documents_cases enteredAfter found foundLater with
    same | ⟨first, rest, names, atPlace, finds, isNew, old, new⟩
  · rw [same, sameTexts]
    exact ⟨rfl, .inl rfl⟩
  · have ascending := ascending_documents foundLater
    rw [new] at ascending ⊢
    rw [← sameTexts, old]
    have idle {text : String} (isText : after.readText (pathBelow root names) = .ok text) :
        Marker.readAll text = .ok [] := by
      rw [isStaged.eq_of_readText finds enteredAfter atPlace isText]
      exact Settings.readAll_template
    refine ⟨Scan.resolution_insert ascending fun _ => idle, ?_⟩
    cases reads : after.readText (pathBelow root names) with
    | ok text => exact .inl (Scan.failures_insert_of_text ascending reads (idle reads))
    | error error =>
        obtain ⟨target, isLink⟩ := exists_link_of_finds isStaged located entered atPlace finds
        obtain ⟨front, back, oldFailures, newFailures⟩ :=
          Scan.failures_insert_of_error ascending reads
        exact .inr ⟨_, error, front, back, ⟨⟨above, target, entered, isLink⟩, finds, isNew, reads⟩,
          oldFailures, newFailures⟩

/-- What a listing prints is the same, or as JSON has this report more. -/
theorem exists_outputs_of_made
    (isStaged : Tree.IsStaged before place Settings.template.toUTF8 after)
    (located : after.locate (Settings.fileOf root) = .ok (place, .file Settings.template.toUTF8))
    (entered : before.directory root = .ok above) (format : OutputFormat) :
    ∃ old new oldNotices newNotices,
      Project.scan ⟨root, {}⟩ before = .ok (old, oldNotices) ∧
        Project.scan ⟨root, {}⟩ after = .ok (new, newNotices) ∧
          Listing.result new format = Listing.result old format ∧
          (Listing.output root new format = Listing.output root old format ∨
            format = .json ∧ ReportsMade before after root (Listing.output root old format)
              (Listing.output root new format)) := by
  obtain ⟨old, new, oldNotices, newNotices, scanned, laterScanned, resolution, failures⟩ :=
    exists_scans_of_made isStaged located entered
  have ends : Listing.result new format = Listing.result old format := by
    unfold Listing.result
    rw [resolution]
  refine ⟨old, new, oldNotices, newNotices, scanned, laterScanned, ends, ?_⟩
  cases format with
  | text =>
      left
      unfold Listing.output
      rw [resolution]
  | json =>
      unfold Listing.output
      rw [resolution]
      cases hasForm : Listing.expectJson old.resolution with
      | error failure => exact .inl rfl
      | ok =>
          rcases failures with same | ⟨document, error, first, rest, made, before, after⟩
          · left
            dsimp only
            unfold Listing.json
            rw [resolution, same]
          · refine .inr ⟨rfl, document, error, old, first, rest, made, before, rfl, ?_⟩
            dsimp only
            unfold Listing.json
            rw [resolution, after]

end Made

namespace Command

open Session

section Init

variable {tree after : Tree} {root : Path} {above : Location}

theorem tells_succeed (tree : Tree) (format : OutputFormat) (message : String) :
    ∃ line, (succeed format message).Tells tree [.printed line] (.ok ()) :=
  ⟨_, tells_tell _⟩

theorem init_tells_of_present (format : OutputFormat)
    (present : tree.isPresent (Settings.fileOf root) = true) :
    ∃ line, (init format root).Tells tree [.printed line] (.ok ()) := by
  obtain ⟨line, succeeds⟩ :=
    tells_succeed tree format ("Configuration already present in " ++ root.text)
  refine ⟨line, tells_tree.bind_of_silent ?_⟩
  rw [if_pos present]
  exact succeeds

theorem init_changes_of_absent (format : OutputFormat)
    (absent : tree.isPresent (Settings.fileOf root) = false)
    (entered : tree.directory root = .ok above)
    (written : tree.fillFile (Settings.fileOf root) Settings.template.toUTF8 = (.ok (), after)) :
    ∃ line, (init format root).Changes tree after [.printed line] (.ok ()) := by
  obtain ⟨line, succeeds⟩ := tells_succeed after format ("Wrote " ++ (Settings.fileOf root).text)
  refine ⟨line, tells_tree.bind_of_silent ?_⟩
  rw [if_neg (by simp [absent])]
  refine tells_tree.bind_of_silent ?_
  rw [Tree.ensureDirectory_of_directory entered]
  refine (changes_setTree tree).bind_of_silent ((tells_expect (.ok ())).bind_of_silent ?_)
  rw [written]
  exact (changes_setTree after).bind_of_silent ((tells_expect (.ok ())).bind_of_silent succeeds)

theorem init_fails {error : FileError} (format : OutputFormat)
    (absent : tree.isPresent (Settings.fileOf root) = false)
    (entered : tree.directory root = .ok above)
    (fails : tree.fillFile (Settings.fileOf root) Settings.template.toUTF8 =
      (.error error, after)) :
    (init format root).Changes tree after []
      (.error (.settingsNotWritten (Settings.fileOf root) error)) := by
  refine tells_tree.bind_of_silent ?_
  rw [if_neg (by simp [absent])]
  refine tells_tree.bind_of_silent ?_
  rw [Tree.ensureDirectory_of_directory entered]
  refine (changes_setTree tree).bind_of_silent ((tells_expect (.ok ())).bind_of_silent ?_)
  rw [fails]
  exact (changes_setTree after).bind_of_silent
    (tells_expect (.error (Failure.settingsNotWritten _ _))).bind_error

end Init

section Runs

variable {world : World} {root : Path} {above : Location} {arguments : List Bytes}
  {wanted : Option OutputFormat} {verbose : Bool}

/-- What succeeds has a format. -/
theorem exists_formatOf_of_code {command : CommandLine.Command}
    (asked : CommandLine.read (world.environment "DACDOC_OFFLINE") arguments =
      .ok ⟨wanted, verbose, command⟩)
    (succeeds : (run world arguments).code = 0) :
    ∃ format, formatOf world ⟨wanted, verbose, command⟩ = .ok format := by
  cases chosen : formatOf world ⟨wanted, verbose, command⟩ with
  | ok format => exact ⟨format, rfl⟩
  | error failure =>
      have failed := succeeds.symm.trans (run_of_formatOf_error asked chosen).1
      exact absurd failed.symm (Failure.code_ne_zero failure)

/-- Setting a project up succeeds when there are settings, or when a file can be made for them. -/
theorem run_init_cases
    (asked : CommandLine.read (world.environment "DACDOC_OFFLINE") arguments =
      .ok ⟨wanted, verbose, .init root⟩)
    (entered : world.tree.directory root = .ok above) (succeeds : (run world arguments).code = 0) :
    (world.tree.isPresent (Settings.fileOf root) = true ∧
      (run world arguments).tree = world.tree) ∨
      (world.tree.isPresent (Settings.fileOf root) = false ∧
        ∃ place,
          Tree.IsStaged world.tree place Settings.template.toUTF8 (run world arguments).tree ∧
            (run world arguments).tree.locate (Settings.fileOf root) =
              .ok (place, .file Settings.template.toUTF8)) := by
  obtain ⟨format, chosen⟩ := exists_formatOf_of_code asked succeeds
  cases present : world.tree.isPresent (Settings.fileOf root) with
  | true =>
      obtain ⟨line, tells⟩ := init_tells_of_present format present
      exact .inl ⟨rfl, tree_run asked (perform_changes chosen tells)⟩
  | false =>
      rcases fills : world.tree.fillFile (Settings.fileOf root) Settings.template.toUTF8 with
        ⟨error | _, after⟩
      · have fails := init_fails format present entered fills
        cases succeeds.symm.trans (code_run asked (perform_changes chosen fails))
      · obtain ⟨line, changes⟩ := init_changes_of_absent format present entered fills
        obtain ⟨writes, -⟩ := Tree.fillFile_eq_ok_iff.mp fills
        rw [tree_run asked (perform_changes chosen changes)]
        exact .inr ⟨rfl, Tree.exists_isStaged_of_writeFile present writes⟩

/-- With settings, setting a project up again does nothing. -/
theorem run_init_of_present {format : OutputFormat}
    (asked : CommandLine.read (world.environment "DACDOC_OFFLINE") arguments =
      .ok ⟨wanted, verbose, .init root⟩)
    (chosen : formatOf world ⟨wanted, verbose, .init root⟩ = .ok format)
    (present : world.tree.isPresent (Settings.fileOf root) = true) :
    (run world arguments).code = 0 ∧ (run world arguments).tree = world.tree := by
  obtain ⟨line, tells⟩ := init_tells_of_present format present
  have performs := perform_changes chosen tells
  exact ⟨code_run asked performs, tree_run asked performs⟩

/-- Listing comes to the same when the settings file has been made. -/
theorem run_list_of_made {after : Tree} {place : Location}
    (asked : CommandLine.read (world.environment "DACDOC_OFFLINE") arguments =
      .ok ⟨wanted, verbose, .list root⟩)
    (entered : world.tree.directory root = .ok above)
    (isStaged : Tree.IsStaged world.tree place Settings.template.toUTF8 after)
    (absent : world.tree.isPresent (Settings.fileOf root) = false)
    (located : after.locate (Settings.fileOf root) = .ok (place, .file Settings.template.toUTF8)) :
    let later := { world with tree := after }
    (run later arguments).code = (run world arguments).code ∧
      ((run later arguments).stdout = (run world arguments).stdout ∨
        formatOf world ⟨wanted, verbose, .list root⟩ = .ok .json ∧
          ReportsMade world.tree after root (run world arguments).stdout
            (run later arguments).stdout) := by
  intro later
  have opensAlike := Project.openAt_of_made world.preferences isStaged absent located
  have laterAsked : CommandLine.read (later.environment "DACDOC_OFFLINE") arguments =
      .ok ⟨wanted, verbose, .list root⟩ := asked
  cases chosen : formatOf world ⟨wanted, verbose, .list root⟩ with
  | error failure =>
      have laterChosen : formatOf later ⟨wanted, verbose, .list root⟩ = .error failure := chosen
      obtain ⟨code, stdout⟩ := run_of_formatOf_error asked chosen
      obtain ⟨laterCode, laterStdout⟩ := run_of_formatOf_error laterAsked laterChosen
      exact ⟨laterCode.trans code.symm, .inl (laterStdout.trans stdout.symm)⟩
  | ok format =>
      have laterChosen : formatOf later ⟨wanted, verbose, .list root⟩ = .ok format := chosen
      cases opens : Project.openAt world.tree world.preferences root with
      | error failure =>
          have laterOpens : Project.openAt later.tree later.preferences root = .error failure :=
            opensAlike.trans opens
          obtain ⟨code, stdout⟩ := run_list_of_openAt_error asked chosen opens
          obtain ⟨laterCode, laterStdout⟩ :=
            run_list_of_openAt_error laterAsked laterChosen laterOpens
          exact ⟨laterCode.trans code.symm, .inl (laterStdout.trans stdout.symm)⟩
      | ok project =>
          have laterOpens : Project.openAt later.tree later.preferences root = .ok project :=
            opensAlike.trans opens
          obtain ⟨-, settings, -, isDefault, rfl⟩ := Project.exists_of_openAt opens
          rw [Settings.ofRoot_of_absent absent] at isDefault
          obtain rfl := Except.ok.inj isDefault
          obtain ⟨old, new, _, _, scanned, laterScanned, ends, outputs⟩ :=
            exists_outputs_of_made isStaged located entered format
          obtain ⟨code, stdout⟩ := run_list asked chosen opens scanned
          obtain ⟨laterCode, laterStdout⟩ := run_list laterAsked laterChosen laterOpens laterScanned
          rw [code, laterCode, stdout, laterStdout, ends]
          refine ⟨rfl, ?_⟩
          rcases outputs with same | ⟨rfl, made⟩
          · exact .inl same
          · exact .inr ⟨rfl, made⟩

end Runs

end Command

theorem fillFile_selfLinking (bytes : ByteArray) :
    ∃ filled, selfLinking.tree.fillFile (Settings.fileOf ⟨"."⟩) bytes = (.ok (), filled) := by
  have arrived : selfLinking.tree.arrive true (Settings.fileOf ⟨"."⟩) =
      .ok (.vacant Settings.entryName [] rfl rfl) := by
    have sound : Tree.byteFault? (Settings.fileOf ⟨"."⟩) = none := by decide +kernel
    have steps : Step.ofBytes (Settings.fileOf ⟨"."⟩).bytes =
        [.stay, .into Settings.entryName] := by
      decide +kernel
    unfold Tree.arrive
    rw [sound, steps]
    exact (Tree.walk_stay rfl).trans (Tree.walk_into_free rfl (by decide +kernel) rfl)
  simp only [Tree.fillFile_eq_ok_iff]
  unfold Tree.writeFile
  rw [arrived]
  exact ⟨_, rfl, rfl⟩

/-- **Setting a project up is neutral.** When it succeeds for a root that is a directory, the tree
is as it was, or there is one file more, at a place where nothing was, which holds the default
settings. To do it again succeeds and changes nothing. Listing the project, in whatever format, has
the same exit code as before and prints the same, unless the name of the settings file was that of a
link and the file at its end is found as a document that cannot be read: a listing as JSON then
reports this document as well, and shows nothing else that is new. -/
theorem init_is_neutral {world : World} {root : Path} {arguments : List Bytes}
    {wanted : Option OutputFormat} {verbose : Bool}
    (asked : CommandLine.read (world.environment "DACDOC_OFFLINE") arguments =
      .ok ⟨wanted, verbose, .init root⟩)
    (isDirectory : world.tree.isDirectory root = true)
    (succeeds : (Command.run world arguments).code = 0) :
    let later := { world with tree := (Command.run world arguments).tree }
    (later.tree = world.tree ∨
      ∃ place, world.tree.find? place = none ∧ ∀ location, later.tree.find? location =
        if location = place then some (.file Settings.template.toUTF8)
        else world.tree.find? location) ∧
      ((Command.run later arguments).code = 0 ∧ (Command.run later arguments).tree = later.tree) ∧
        ∀ listing wanted verbose,
          CommandLine.read (world.environment "DACDOC_OFFLINE") listing =
            .ok ⟨wanted, verbose, .list root⟩ →
          (Command.run later listing).code = (Command.run world listing).code ∧
            ((Command.run later listing).stdout = (Command.run world listing).stdout ∨
              Command.formatOf world ⟨wanted, verbose, .list root⟩ = .ok .json ∧
                ReportsMade world.tree later.tree root (Command.run world listing).stdout
                  (Command.run later listing).stdout) := by
  intro later
  obtain ⟨above, entered⟩ := Tree.isDirectory_iff.mp isDirectory
  rcases Command.run_init_cases asked entered succeeds with
    ⟨-, same⟩ | ⟨absent, place, isStaged, located⟩
  · have unchanged : later = world := by
      unfold later
      rw [same]
    rw [unchanged]
    exact ⟨.inl rfl, ⟨succeeds, same⟩, fun _ _ _ _ => ⟨rfl, .inl rfl⟩⟩
  · refine ⟨.inr ⟨place, isStaged.free, isStaged.entries⟩, ?_, ?_⟩
    · obtain ⟨format, chosen⟩ := Command.exists_formatOf_of_code asked succeeds
      have present : later.tree.isPresent (Settings.fileOf root) = true := by
        unfold Tree.isPresent
        rw [located]
        rfl
      have again : CommandLine.read (later.environment "DACDOC_OFFLINE") arguments =
          .ok ⟨wanted, verbose, .init root⟩ := asked
      have chosenAgain : Command.formatOf later ⟨wanted, verbose, .init root⟩ = .ok format := chosen
      exact Command.run_init_of_present again chosenAgain present
    · intro listing wanted verbose listed
      exact Command.run_list_of_made listed entered isStaged absent located

/-- Beside a document with two markers the file is made, and they are listed as before. -/
theorem init_is_neutral_in_selfLinking :
    let later := { selfLinking with tree := (Command.run selfLinking ["init"]).tree }
    (Command.run selfLinking ["init"]).code = 0 ∧
      later.tree.find? [selfLinkingName] = some (.file selfLinkingText.toUTF8) ∧
      (Command.run later ["init"]).code = 0 ∧ (Command.run later ["init"]).tree = later.tree ∧
      (Command.run later ["list"]).stdout = (Command.run selfLinking ["list"]).stdout := by
  intro later
  have asked : CommandLine.read (selfLinking.environment "DACDOC_OFFLINE") ["init"] =
      .ok ⟨none, false, .init ⟨"."⟩⟩ := by
    decide +kernel
  have listed : CommandLine.read (selfLinking.environment "DACDOC_OFFLINE") ["list"] =
      .ok ⟨none, false, .list ⟨"."⟩⟩ := by
    decide +kernel
  have isDirectory : selfLinking.tree.isDirectory ⟨"."⟩ = true := by
    unfold Tree.isDirectory
    rw [directory_selfLinking]
    rfl
  have succeeds : (Command.run selfLinking ["init"]).code = 0 := by
    obtain ⟨filled, fills⟩ := fillFile_selfLinking Settings.template.toUTF8
    obtain ⟨line, changes⟩ := Command.init_changes_of_absent .text isPresent_selfLinking
      directory_selfLinking fills
    exact Command.code_run asked (Command.perform_changes rfl changes)
  obtain ⟨kept, ⟨code, tree⟩, lists⟩ := init_is_neutral asked isDirectory succeeds
  have found : selfLinking.tree.find? [selfLinkingName] =
      some (.file selfLinkingText.toUTF8) :=
    rfl
  refine ⟨succeeds, ?_, code, tree, ?_⟩
  · rcases kept with same | ⟨place, free, entries⟩
    · rw [same, found]
    · have other : [selfLinkingName] ≠ place := by
        rintro rfl
        cases found.symm.trans free
      rw [entries, if_neg other, found]
  · rcases (lists ["list"] none false listed).2 with same | ⟨inJson, -⟩
    · exact same
    · cases inJson

/-- The name of the file that the link leads to. -/
def notesName : Name := ⟨"notes-of-today.md", by decide +kernel⟩

/-- A world in which the settings file is a link to a document that is not there, and whose user
prefers JSON. -/
def dangling : World where
  tree := {
    rows := [([Settings.entryName], .link notesName.bytes)]
    workingDirectory := []
    distinct := List.pairwise_singleton _ _
    inside := by
      intro row member
      obtain rfl := List.mem_singleton.mp member
      exact ⟨_, [], rfl, rfl⟩ }
  preferences := some ⟨⟨"/home/config.toml"⟩, .ok "default_format = \"json\"\n"⟩
  environment := fun _ => none
  fetch := fun _ => .passed

section Dangling

variable {count : Nat}

theorem fileOf_slashed (count : Nat) :
    Settings.fileOf (slashed count) = (slashed count).join ⟨Settings.entryName.bytes⟩ :=
  rfl

/-- The way to the settings file ends behind the link, at the name of the document. -/
theorem arrive_dangling (makesFile : Bool) (room : count + 14 < Tree.pathLimit) :
    dangling.tree.arrive makesFile (Settings.fileOf (slashed (count + 1))) =
      .ok (.vacant notesName [] rfl rfl) := by
  have size : Settings.entryName.bytes.length = 12 := by decide +kernel
  have sound : Tree.byteFault? (Settings.fileOf (slashed (count + 1))) = none := by
    rw [fileOf_slashed, byteFault?_slashed (bytes_join_slashed Settings.entryName count)
      (by decide +kernel), size, if_pos (by omega)]
  have steps : Step.ofBytes (Settings.fileOf (slashed (count + 1))).bytes =
      (.stay :: List.replicate count .gap) ++ [.into Settings.entryName] := by
    rw [fileOf_slashed, Step.ofBytes_join, ofSegment_base_slashed]
  have target : Step.ofBytes notesName.bytes ++ [] = [.into notesName] := by decide +kernel
  have here (path : Path) : Tree.startOf [] path = [] := by
    unfold Tree.startOf
    rw [ite_self]
  have stays : dangling.tree.Walks (39 + 1) [] (.stay :: List.replicate count .gap) (39 + 1) []
      .directory :=
    walks_slashed rfl count
  have limit : Tree.linkLimit = 39 + 1 := rfl
  have start : dangling.tree.workingDirectory = [] := rfl
  unfold Tree.arrive
  rw [sound, steps, start, here, limit]
  dsimp only
  rw [stays.walk_append (Bool.and_false makesFile), Tree.walk_into_link rfl
    (Bool.and_false makesFile) (by decide +kernel) rfl, here, target,
    Tree.walk_into_free rfl (by decide +kernel) rfl]

/-- The tree once the settings file is made. -/
def danglingTree : Tree :=
  dangling.tree.put notesName [] (.file Settings.template.toUTF8) (Tree.find?_root _)
    (by decide +kernel)

theorem isPresent_dangling (room : count + 14 < Tree.pathLimit) :
    dangling.tree.isPresent (Settings.fileOf (slashed (count + 1))) = false := by
  unfold Tree.isPresent Tree.locate
  rw [arrive_dangling false room]
  rfl

theorem writeFile_dangling (room : count + 14 < Tree.pathLimit) :
    dangling.tree.writeFile (Settings.fileOf (slashed (count + 1))) Settings.template.toUTF8 =
      .ok danglingTree := by
  unfold Tree.writeFile
  rw [arrive_dangling true room]
  rfl

theorem fillFile_dangling (room : count + 14 < Tree.pathLimit) :
    dangling.tree.fillFile (Settings.fileOf (slashed (count + 1))) Settings.template.toUTF8 =
      (.ok (), danglingTree) :=
  Tree.fillFile_eq_ok_iff.mpr ⟨writeFile_dangling room, rfl⟩

theorem ofFile?_dangling : Preferences.ofFile? dangling.preferences = .ok ⟨.json⟩ := by
  have preferred : (Toml.read? "default_format = \"json\"\n").bind (fun entries =>
      Toml.Value.orDefault OutputFormat.ofToml? .text (entries.find? "default_format")) =
        some .json := by
    decide +kernel
  unfold dangling Preferences.ofFile? Preferences.read
  dsimp only
  rw [preferred]

theorem takeAll_slashed (name : CommandLine.CommandName) (count : Nat) :
    ({} : CommandLine.Given).takeAll name
        (CommandLine.tokens (some name) [(slashed count).bytes]) =
      .ok { operand := some (slashed count) } := by
  have noMark : (slashed count).bytes ≠ [CommandLine.dash, CommandLine.dash] := by
    intro same
    exact absurd (List.cons.inj same).1 (by decide)
  have isOperand : CommandLine.tokens (some name) [(slashed count).bytes] =
      [.operand (slashed count).bytes] := by
    unfold CommandLine.tokens
    rw [if_neg noMark]
    rfl
  rw [isOperand]
  rfl

/-- The path is the operand of any command that can do with it alone. -/
theorem read_slashed {name : CommandLine.CommandName} {command : CommandLine.Command} {count : Nat}
    (given : CommandLine.command { operand := some (slashed count) } none name = .ok command) :
    CommandLine.read none [Text.utf8 name.text, (slashed count).bytes] =
      .ok ⟨none, false, command⟩ := by
  have isCommand : CommandLine.tokens none [Text.utf8 name.text, (slashed count).bytes] =
      [.command (Text.utf8 name.text) [(slashed count).bytes]] := by
    have isWord : CommandLine.looksLikeOption (Text.utf8 name.text) = false := by
      cases name <;> decide +kernel
    have noMark : Text.utf8 name.text ≠ [CommandLine.dash, CommandLine.dash] := by
      cases name <;> decide +kernel
    unfold CommandLine.tokens
    rw [if_neg noMark, if_neg (by simp [isWord])]
    rfl
  have known : CommandLine.CommandName.ofBytes? (Text.utf8 name.text) = some name := by
    cases name <;> decide +kernel
  have isNoHelp : Text.utf8 name.text ≠ Text.utf8 "help" := by
    cases name <;> decide +kernel
  unfold CommandLine.read
  rw [isCommand]
  unfold CommandLine.readFrom
  rw [if_neg isNoHelp, known]
  dsimp only
  rw [takeAll_slashed]
  simp only [bind, Except.bind, given]
  rfl

theorem directory_dangling (room : count + 14 < Tree.pathLimit) :
    dangling.tree.directory (slashed (count + 1)) = .ok [] :=
  directory_slashed rfl (by omega)

theorem directory_danglingTree (room : count + 14 < Tree.pathLimit) :
    danglingTree.directory (slashed (count + 1)) = .ok [] :=
  directory_slashed rfl (by omega)

theorem discover_dangling (room : count + 14 < Tree.pathLimit) :
    Project.discover ⟨slashed (count + 1), {}⟩ dangling.tree = .ok ⟨[], []⟩ := by
  have entered := directory_dangling room
  have documents : (dangling.tree.entriesIn []).filterMap
      (Discovery.document? {} (slashed (count + 1))) = [] :=
    rfl
  have leftOut : (dangling.tree.entriesIn []).filterMap
      (Discovery.leftOut? {} (slashed (count + 1))) = [] :=
    rfl
  unfold Project.discover
  rw [Discovery.ofTree_of_flat (Tree.list_of_directory entered) rfl, documents, leftOut,
    Discovery.sorted_of_ascending .nil]
  rfl

theorem discover_danglingTree (room : count + 14 < Tree.pathLimit) :
    Project.discover ⟨slashed (count + 1), {}⟩ danglingTree =
      .ok ⟨[(slashed (count + 1)).join ⟨notesName.bytes⟩], []⟩ := by
  have entered := directory_danglingTree room
  have entries : danglingTree.entriesIn [] =
      [(notesName, .file Settings.template.toUTF8), (Settings.entryName, .link notesName.bytes)] :=
    rfl
  have isDocument :
      ({} : Settings).isDocument ((slashed (count + 1)).join ⟨notesName.bytes⟩) = true := by
    unfold Settings.isDocument Path.extension?
    rw [Discovery.fileName?_join]
    decide +kernel
  have documents : (danglingTree.entriesIn []).filterMap
      (Discovery.document? {} (slashed (count + 1))) =
        [(slashed (count + 1)).join ⟨notesName.bytes⟩] := by
    have isFound : Discovery.document? {} (slashed (count + 1))
        (notesName, .file Settings.template.toUTF8) =
          some ((slashed (count + 1)).join ⟨notesName.bytes⟩) :=
      if_pos isDocument
    rw [entries, List.filterMap_cons_some isFound]
    rfl
  have leftOut : (danglingTree.entriesIn []).filterMap
      (Discovery.leftOut? {} (slashed (count + 1))) = [] := by
    rw [entries]
    rfl
  have flat : (danglingTree.entriesIn []).filterMap
      (Discovery.entered? {} (slashed (count + 1))) = [] := by
    rw [entries]
    rfl
  unfold Project.discover
  rw [Discovery.ofTree_of_flat (Tree.list_of_directory entered) flat, documents, leftOut,
    Discovery.sorted_of_ascending (List.pairwise_singleton _ _),
    Discovery.sorted_of_ascending .nil]
  rfl

/-- The document cannot be read when its name does not fit behind the slashes. -/
theorem readText_danglingTree (room : count + 14 < Tree.pathLimit)
    (full : Tree.pathLimit ≤ count + 2 + notesName.bytes.length) :
    danglingTree.readText ((slashed (count + 1)).join ⟨notesName.bytes⟩) = .error .nameTooLong := by
  have entered := directory_danglingTree room
  have found : danglingTree.find? [notesName] = some (.file Settings.template.toUTF8) :=
    (Tree.find?_put _ _ _ _ _ _ _).trans (if_pos rfl)
  have fault : Tree.byteFault? ((slashed (count + 1)).join ⟨notesName.bytes⟩) =
      some .nameTooLong := by
    rw [byteFault?_slashed (bytes_join_slashed notesName count) (by decide +kernel),
      if_neg (by omega)]
  unfold Tree.readText
  rw [Tree.locate_join entered (by simp [found]), fault]
  rfl

theorem openAt_dangling (room : count + 14 < Tree.pathLimit) :
    Project.openAt dangling.tree dangling.preferences (slashed (count + 1)) =
      .ok ⟨slashed (count + 1), {}⟩ :=
  Project.openAt_of_absent (directory_dangling room) ofFile?_dangling (isPresent_dangling room)

theorem run_init_dangling (room : count + 14 < Tree.pathLimit) :
    let reply := Command.run dangling ["init", (slashed (count + 1)).bytes]
    reply.code = 0 ∧ reply.tree = danglingTree := by
  have given : CommandLine.command { operand := some (slashed (count + 1)) } none .init =
      .ok (.init (slashed (count + 1))) :=
    rfl
  have entered := directory_dangling room
  obtain ⟨line, changes⟩ := Command.init_changes_of_absent .json (isPresent_dangling room) entered
    (fillFile_dangling room)
  have performs : (Command.perform dangling ⟨none, false, .init (slashed (count + 1))⟩).Changes
      dangling.tree danglingTree _ (.ok ()) :=
    Command.perform_changes (Command.formatOf_of_preferred ofFile?_dangling) changes
  exact ⟨Command.code_run (read_slashed given) performs,
    Command.tree_run (read_slashed given) performs⟩

/-- Before, a listing shows nothing. -/
theorem stdout_list_dangling (room : count + 14 < Tree.pathLimit) :
    (Command.run dangling ["list", (slashed (count + 1)).bytes]).stdout =
      Listing.output (slashed (count + 1)) (.ofSources (.read dangling.tree [])) .json := by
  have given : CommandLine.command { operand := some (slashed (count + 1)) } none .list =
      .ok (.list (slashed (count + 1))) :=
    rfl
  obtain ⟨notices, scanned⟩ := Project.scan_of_discover (discover_dangling room)
  exact (Command.run_list (read_slashed given) (Command.formatOf_of_preferred ofFile?_dangling)
    (openAt_dangling room) scanned).2

/-- Afterwards, it is that of the one document. -/
theorem stdout_list_danglingTree (room : count + 14 < Tree.pathLimit) :
    let later := { dangling with tree := danglingTree }
    (Command.run later ["list", (slashed (count + 1)).bytes]).stdout =
      Listing.output (slashed (count + 1))
        (.ofSources (.read danglingTree [(slashed (count + 1)).join ⟨notesName.bytes⟩])) .json := by
  have given : CommandLine.command { operand := some (slashed (count + 1)) } none .list =
      .ok (.list (slashed (count + 1))) :=
    rfl
  obtain ⟨place, isStaged, located⟩ :=
    Tree.exists_isStaged_of_writeFile (isPresent_dangling room) (writeFile_dangling room)
  have opens : Project.openAt danglingTree dangling.preferences (slashed (count + 1)) =
      .ok ⟨slashed (count + 1), {}⟩ :=
    (Project.openAt_of_made _ isStaged (isPresent_dangling room) located).trans
      (openAt_dangling room)
  obtain ⟨notices, scanned⟩ := Project.scan_of_discover (discover_danglingTree room)
  have preferred : Preferences.ofFile? { dangling with tree := danglingTree }.preferences =
      .ok ⟨.json⟩ :=
    ofFile?_dangling
  exact (Command.run_list (read_slashed given) (Command.formatOf_of_preferred preferred)
    opens scanned).2

theorem listing_grows_of_full (room : count + 14 < Tree.pathLimit)
    (full : Tree.pathLimit ≤ count + 2 + notesName.bytes.length) :
    let root := slashed (count + 1)
    let reply := Command.run dangling ["init", root.bytes]
    CommandLine.read (dangling.environment "DACDOC_OFFLINE") ["init", root.bytes] =
        .ok ⟨none, false, .init root⟩ ∧
      CommandLine.read (dangling.environment "DACDOC_OFFLINE") ["list", root.bytes] =
        .ok ⟨none, false, .list root⟩ ∧
      dangling.tree.isDirectory root = true ∧ reply.code = 0 ∧
        (Command.run { dangling with tree := reply.tree } ["list", root.bytes]).stdout ≠
          (Command.run dangling ["list", root.bytes]).stdout := by
  intro root reply
  obtain ⟨code, tree⟩ := run_init_dangling room
  have asked : CommandLine.command { operand := some root } none .init = .ok (.init root) := rfl
  have listed : CommandLine.command { operand := some root } none .list = .ok (.list root) := rfl
  have isDirectory := Tree.isDirectory_iff.mpr ⟨_, directory_dangling room⟩
  refine ⟨read_slashed asked, read_slashed listed, isDirectory, code, ?_⟩
  have single := List.pairwise_singleton (· < ·) (root.join ⟨notesName.bytes⟩)
  have unreadable := readText_danglingTree room full
  have isFile : SourceError.ofFile? danglingTree (root.join ⟨notesName.bytes⟩) =
      some (.unreadable (root.join ⟨notesName.bytes⟩) .nameTooLong) := by
    unfold SourceError.ofFile?
    rw [unreadable]
  have isRead : SourceError.ofText? danglingTree (root.join ⟨notesName.bytes⟩) = none := by
    unfold SourceError.ofText?
    rw [unreadable]
  have idle (text : String)
      (isText : danglingTree.readText (root.join ⟨notesName.bytes⟩) = .ok text) :
      Marker.readAll text = .ok [] := by
    cases unreadable.symm.trans isText
  have resolution : (Scan.ofSources
      (.read danglingTree ([] ++ root.join ⟨notesName.bytes⟩ :: []))).resolution =
        (Scan.ofSources (.read danglingTree ([] ++ []))).resolution :=
    Scan.resolution_insert single idle
  rw [tree, stdout_list_danglingTree room, stdout_list_dangling room]
  apply Listing.output_json_ne
  · exact resolution
  · rfl
  · rfl
  · rw [Scan.failures_read single, List.filterMap_cons_some isFile,
      List.filterMap_cons_none isRead]
    rfl

end Dangling

/-- **Setting a project up can show in its listing.** The settings file is made at the end of a
link, under a name that does not fit behind the path of the root. So it is found as a document and
cannot be read, and the listing, which was empty, reports it. -/
theorem listing_grows_in_dangling :
    let root := slashed (4081 + 1)
    let reply := Command.run dangling ["init", root.bytes]
    CommandLine.read (dangling.environment "DACDOC_OFFLINE") ["init", root.bytes] =
        .ok ⟨none, false, .init root⟩ ∧
      CommandLine.read (dangling.environment "DACDOC_OFFLINE") ["list", root.bytes] =
        .ok ⟨none, false, .list root⟩ ∧
      dangling.tree.isDirectory root = true ∧ reply.code = 0 ∧
        (Command.run { dangling with tree := reply.tree } ["list", root.bytes]).stdout ≠
          (Command.run dangling ["list", root.bytes]).stdout :=
  listing_grows_of_full (by decide +kernel) (by decide +kernel)

end DocMarkers
