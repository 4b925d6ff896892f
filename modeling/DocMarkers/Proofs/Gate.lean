import DocMarkers.Proofs.DocumentPaths
import DocMarkers.Proofs.ScannedDocuments
import DocMarkers.Proofs.Sessions
import DocMarkers.Proofs.SlashedPaths
import DocMarkers.Proofs.Summaries
import DocMarkers.Proofs.Walks

/-! # When checking a project succeeds

A run that checks a project has the exit code 0 when all documents can be read to the end and no
link fails, and, if it is strict, when the project holds in all it says; otherwise it has the code
1. The format of the output has no part in it (`check_succeeds_iff`).
-/

namespace DocMarkers

section Report

variable {project : Project} {sources : Sources} {root : Path} {probe : Probe} {strict : Bool}

/-- The checks that a report counts as failed: links, and if it is strict all that does not hold. -/
theorem failedChecks_eq_zero_iff :
    (CheckReport.ofScan project (.ofSources sources)
      (.ofResolution (Scan.ofSources sources).resolution root probe)).failedChecks strict = 0 ↔
      (∀ check, .url check ∈ (Scan.ofSources sources).resolution.checks →
        (probe (check.target root)).status ≠ .failed) ∧
      (strict = true → Holds (Scan.ofSources sources).markers root probe) := by
  have resolved : (Scan.ofSources sources).resolution =
      resolve (Scan.ofSources sources).markers := rfl
  unfold CheckReport.failedChecks CheckReport.ofScan
  dsimp only
  rw [resolved]
  cases strict with
  | false => simp [failed_eq_zero_iff]
  | true =>
      simp only [if_true, all_passed_summary_iff, all_passed_iff, true_implies]
      constructor
      · intro holds
        refine ⟨?_, holds⟩
        intro check listed failed
        have passed := holds.links check listed
        cases passed.symm.trans failed
      · exact And.right

end Report

namespace Project

variable {project : Project} {tree : Tree} {discovery : Discovery}

/-- The documents of a project are the same for all look-ups. -/
theorem discover_forLookups (project : Project) (offline : Bool) (tree : Tree) :
    (project.forLookups offline).discover tree = project.discover tree := by
  have kept : Search.take (project.forLookups offline).settings = Search.take project.settings :=
    rfl
  unfold discover Discovery.ofTree
  rw [Search.below_congr kept]
  rfl

/-- A project is scanned by reading the documents that are found, whatever its look-ups. -/
theorem exists_scan_of_discover (offline : Bool) (found : project.discover tree = .ok discovery) :
    ∃ notices, (project.forLookups offline).scan tree =
      .ok (.ofSources (.read tree discovery.documents), notices) :=
  scan_of_discover ((discover_forLookups project offline tree).trans found)

/-- The documents that are found are at different paths. -/
theorem pairwise_documents_of_discover (found : project.discover tree = .ok discovery) :
    discovery.documents.Pairwise fun left right => ¬ left.Same right :=
  Discovery.pairwise_documents (ofTree_of_discover found)

end Project

/-- **The gate.** When a project opens, its root can be listed and its links can be looked up, a run
that checks it has the exit code 0 exactly when every document can be read to the end, no link fails
and, for a strict run, the project holds. Otherwise the code is 1. It is the same in every format
and however the command line is written. -/
theorem check_succeeds_iff {world : World} {arguments : List Bytes} {format : Option OutputFormat}
    {verbose offline strict : Bool} {root : Path} {project : Project} {discovery : Discovery}
    (asked : CommandLine.read (world.environment "DACDOC_OFFLINE") arguments =
      .ok ⟨format, verbose, .check root offline strict⟩)
    (opens : Project.openAt world.tree world.preferences root = .ok project)
    (listed : project.discover world.tree = .ok discovery)
    (usable : (project.forLookups offline).settings.probe.isUsable = true) :
    let scan := Scan.ofSources (.read world.tree discovery.documents)
    let probe := (project.forLookups offline).settings.probe.probe world.tree world.fetch
    ((Command.run world arguments).code = 0 ↔
      (∀ document ∈ discovery.documents, IsReadable world.tree document) ∧
      (∀ check, .url check ∈ scan.resolution.checks →
        (probe (check.target root)).status ≠ .failed) ∧
      (strict = true → Holds scan.markers root probe)) ∧
    ((Command.run world arguments).code ≠ 0 → (Command.run world arguments).code = 1) ∧
    ∀ otherArguments otherFormat otherVerbose,
      CommandLine.read (world.environment "DACDOC_OFFLINE") otherArguments =
        .ok ⟨otherFormat, otherVerbose, .check root offline strict⟩ →
      (Command.run world otherArguments).code = (Command.run world arguments).code := by
  intro scan probe
  obtain ⟨notices, scanned⟩ := Project.exists_scan_of_discover offline listed
  obtain ⟨-, settings, -, -, rfl⟩ := Project.exists_of_openAt opens
  have code := Command.code_run_check asked opens scanned usable
  have different := Project.pairwise_documents_of_discover listed
  have gate : (Command.run world arguments).code = 0 ↔
      (CheckReport.ofScan (Project.forLookups ⟨root, settings⟩ offline) scan
        (.ofResolution scan.resolution root probe)).failedChecks strict = 0 ∧
        scan.failures = [] := by
    have zero {condition : Prop} [Decidable condition] :
        (if condition then 0 else 1) = 0 ↔ condition := by
      simp
    rw [code]
    exact zero
  refine ⟨?_, ?_, ?_⟩
  · rw [gate, failedChecks_eq_zero_iff, Scan.failures_eq_nil_iff different, and_comm]
  · intro nonzero
    rw [code] at nonzero ⊢
    exact if_neg fun clean => nonzero (if_pos clean)
  · intro otherArguments otherFormat otherVerbose otherAsked
    rw [code, Command.code_run_check otherAsked opens scanned usable]

/-- A document that links to itself and refers to an id that nobody declares. -/
def selfLinkingText : String := "See !DACDOC a.md! and !DACDOC ids=gone!."

/-- The name of that document. -/
def selfLinkingName : Name := ⟨"a.md", by decide +kernel⟩

/-- A world with this document alone. -/
def selfLinking : World where
  tree := {
    rows := [([selfLinkingName], .file selfLinkingText.toUTF8)]
    workingDirectory := []
    distinct := List.pairwise_singleton _ _
    inside := by
      intro row member
      obtain rfl := List.mem_singleton.mp member
      exact ⟨_, [], rfl, rfl⟩ }
  preferences := none
  environment := fun _ => none
  fetch := fun _ => .passed

theorem directory_selfLinking : selfLinking.tree.directory ⟨"."⟩ = .ok [] :=
  directory_here rfl

theorem isPresent_selfLinking : selfLinking.tree.isPresent (Settings.fileOf ⟨"."⟩) = false := by
  have free : selfLinking.tree.find? [Settings.entryName] = none := by decide +kernel
  exact Tree.isPresent_join_of_free directory_selfLinking free

theorem openAt_selfLinking :
    Project.openAt selfLinking.tree selfLinking.preferences ⟨"."⟩ = .ok ⟨⟨"."⟩, {}⟩ :=
  Project.openAt_of_absent directory_selfLinking rfl isPresent_selfLinking

theorem discover_selfLinking :
    Project.discover ⟨⟨"."⟩, {}⟩ selfLinking.tree = .ok ⟨[⟨"./a.md"⟩], []⟩ := by
  have listed := Tree.list_of_directory directory_selfLinking
  have flat : (selfLinking.tree.entriesIn []).filterMap (Discovery.entered? {} ⟨"."⟩) = [] := by
    decide +kernel
  have documents : (selfLinking.tree.entriesIn []).filterMap (Discovery.document? {} ⟨"."⟩) =
      [⟨"./a.md"⟩] := by
    decide +kernel
  have leftOut : (selfLinking.tree.entriesIn []).filterMap (Discovery.leftOut? {} ⟨"."⟩) = [] := by
    decide +kernel
  unfold Project.discover
  rw [Discovery.ofTree_of_flat listed flat, documents, leftOut,
    Discovery.sorted_of_ascending (List.pairwise_singleton _ _), Discovery.sorted_of_ascending .nil]
  rfl

theorem locate_selfLinking :
    selfLinking.tree.locate ⟨"./a.md"⟩ =
      .ok ([selfLinkingName], .file selfLinkingText.toUTF8) := by
  have steps : Step.ofBytes (Text.utf8 "./a.md") = [.stay, .into selfLinkingName] := by
    decide +kernel
  exact Tree.locate_of_walk (by decide +kernel) steps ((Tree.walk_stay rfl).trans
    ((Tree.walk_into rfl rfl (by decide +kernel) rfl (by nofun)).trans (Tree.walk_nil rfl)))

/-- The first marker of the document links to the document itself. -/
def selfLink : Occurrence :=
  ⟨⟨"./a.md"⟩, "!DACDOC a.md!", none, Marker.defaultTestId, .primitive "a.md"⟩

/-- The second one refers to an id that nobody declares. -/
def danglingReference : Occurrence :=
  ⟨⟨"./a.md"⟩, "!DACDOC ids=gone!", none, Marker.defaultTestId,
    .composite none ["gone"] (by decide)⟩

theorem readAll_selfLinkingText :
    Marker.readAll selfLinkingText = .ok [selfLink.marker, danglingReference.marker] := by
  decide +kernel

/-- What the document is scanned as. -/
abbrev selfLinkingScan : Scan :=
  .ofSources (.read selfLinking.tree [⟨"./a.md"⟩])

theorem mem_ofFiles_selfLinking {occurrence : Occurrence} :
    occurrence ∈ Occurrence.ofFiles selfLinkingScan.markers ↔
      occurrence = selfLink ∨ occurrence = danglingReference := by
  have isText := Tree.readText_of_locate locate_selfLinking
  have texts (path : Path) (text : String) :
      (path, text) ∈ (Sources.read selfLinking.tree [⟨"./a.md"⟩]).texts.entries ↔
        path = ⟨"./a.md"⟩ ∧ text = selfLinkingText := by
    rw [Sources.mem_texts_iff (List.pairwise_singleton _ _), List.mem_singleton]
    refine and_congr_right ?_
    rintro rfl
    rw [isText, Except.ok.injEq, eq_comm]
  rw [Scan.mem_ofFiles_iff]
  constructor
  · rintro ⟨text, markers, listed, isRead, member⟩
    obtain ⟨file, rfl⟩ := (texts _ _).mp listed
    obtain rfl := Except.ok.inj (readAll_selfLinkingText.symm.trans isRead)
    obtain ⟨path, marker⟩ := occurrence
    obtain rfl : path = ⟨"./a.md"⟩ := file
    have cases : marker = selfLink.marker ∨ marker = danglingReference.marker := by
      simpa using member
    rcases cases with rfl | rfl
    · exact .inl rfl
    · exact .inr rfl
  · intro cases
    refine ⟨selfLinkingText, _, (texts _ _).mpr ⟨?_, rfl⟩, readAll_selfLinkingText, ?_⟩
    · rcases cases with rfl | rfl <;> rfl
    · rcases cases with rfl | rfl <;> simp

/-- The link of the document leads to the document. -/
theorem links_selfLinking {check : UrlCheck}
    (listed : .url check ∈ selfLinkingScan.resolution.checks) :
    Probe.live selfLinking.tree (some selfLinking.fetch) (check.target ⟨"."⟩) = .passed := by
  obtain ⟨occurrence, id, row, found⟩ := exists_bound_of_url listed
  obtain ⟨bound, isBound, binding⟩ := exists_binding row
  obtain rfl : bound = .url check := Option.some.inj (isBound.symm.trans found)
  cases binding with
  | link claim test =>
      rcases mem_ofFiles_selfLinking.mp (mem_ofFiles_of_bound row) with rfl | rfl
      · obtain rfl := Marker.Claim.primitive.inj claim
        have target : (UrlCheck.ofArgument selfLink.file "a.md").target ⟨"."⟩ =
            .file ⟨"./a.md"⟩ := by
          decide +kernel
        have present : selfLinking.tree.isPresent ⟨"./a.md"⟩ = true := by
          unfold Tree.isPresent
          rw [locate_selfLinking]
          rfl
        rw [target]
        exact if_pos present
      · cases claim

theorem not_holds_selfLinking (probe : Probe) : ¬ Holds selfLinkingScan.markers ⟨"."⟩ probe := by
  intro holds
  have member := mem_ofFiles_selfLinking.mpr (.inr rfl)
  obtain ⟨other, otherMember, declares⟩ :=
    holds.declared danglingReference member "gone" List.mem_cons_self
  rcases mem_ofFiles_selfLinking.mp otherMember with rfl | rfl <;> cases declares

/-- A run that is not strict succeeds, and a strict one fails, in either format. -/
theorem check_succeeds_iff_in_selfLinking :
    CommandLine.read (selfLinking.environment "DACDOC_OFFLINE") ["check"] =
        .ok ⟨none, false, .check ⟨"."⟩ false false⟩ ∧
      CommandLine.read (selfLinking.environment "DACDOC_OFFLINE") ["check", "--strict"] =
        .ok ⟨none, false, .check ⟨"."⟩ false true⟩ ∧
      CommandLine.read (selfLinking.environment "DACDOC_OFFLINE")
        ["--format", "json", "check", "--strict"] =
          .ok ⟨some .json, false, .check ⟨"."⟩ false true⟩ ∧
      Project.openAt selfLinking.tree selfLinking.preferences ⟨"."⟩ = .ok ⟨⟨"."⟩, {}⟩ ∧
      Project.discover ⟨⟨"."⟩, {}⟩ selfLinking.tree = .ok ⟨[⟨"./a.md"⟩], []⟩ ∧
      (Project.forLookups ⟨⟨"."⟩, {}⟩ false).settings.probe.isUsable = true ∧
      (Command.run selfLinking ["check"]).code = 0 ∧
      (Command.run selfLinking ["check", "--strict"]).code = 1 ∧
      (Command.run selfLinking ["--format", "json", "check", "--strict"]).code = 1 := by
  have asked : CommandLine.read (selfLinking.environment "DACDOC_OFFLINE") ["check"] =
      .ok ⟨none, false, .check ⟨"."⟩ false false⟩ := by
    decide +kernel
  have askedStrictly : CommandLine.read (selfLinking.environment "DACDOC_OFFLINE")
      ["check", "--strict"] = .ok ⟨none, false, .check ⟨"."⟩ false true⟩ := by
    decide +kernel
  have askedInJson : CommandLine.read (selfLinking.environment "DACDOC_OFFLINE")
      ["--format", "json", "check", "--strict"] =
        .ok ⟨some .json, false, .check ⟨"."⟩ false true⟩ := by
    decide +kernel
  have usable : (Project.forLookups ⟨⟨"."⟩, {}⟩ false).settings.probe.isUsable = true := by
    decide +kernel
  obtain ⟨succeeds, -, -⟩ :=
    check_succeeds_iff asked openAt_selfLinking discover_selfLinking usable
  obtain ⟨strictly, fails, formats⟩ :=
    check_succeeds_iff askedStrictly openAt_selfLinking discover_selfLinking usable
  have code : (Command.run selfLinking ["check"]).code = 0 := by
    refine succeeds.mpr ⟨?_, ?_, ?_⟩
    · intro document member
      obtain rfl := List.mem_singleton.mp member
      exact ⟨_, _, Tree.readText_of_locate locate_selfLinking, readAll_selfLinkingText⟩
    · intro check listed failed
      have passed := congrArg Outcome.status (links_selfLinking listed)
      cases passed.symm.trans failed
    · intro impossible
      cases impossible
  have strictCode : (Command.run selfLinking ["check", "--strict"]).code = 1 :=
    fails fun zero => not_holds_selfLinking _ ((strictly.mp zero).2.2 rfl)
  exact ⟨asked, askedStrictly, askedInJson, openAt_selfLinking, discover_selfLinking, usable, code,
    strictCode, (formats _ _ _ askedInJson).trans strictCode⟩

end DocMarkers
