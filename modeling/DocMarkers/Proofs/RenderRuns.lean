import DocMarkers.Proofs.RenderedTrees
import DocMarkers.Proofs.SlashedPaths
import Mathlib.Data.List.Infix

/-! # Runs that render

A run that renders a project cannot set up its work and leaves the tree alone, or it writes its
documents one after the other. Whether or not it comes to the end, the first ones then stand
complete at their destinations, as many as were written, and nothing else has changed but new
directories (`render_writes_prefix`).
-/

namespace DocMarkers

/-- A project can be worked on when it opens, its root can be listed, and its links can be looked
up. -/
structure Command.SetsUp (world : World) (root : Path) (offline : Bool) (project : Project)
    (discovery : Discovery) : Prop where
  opens : Project.openAt world.tree world.preferences root = .ok project
  listed : project.discover world.tree = .ok discovery
  usable : (project.forLookups offline).settings.probe.isUsable = true

theorem Project.endsRendering_of_openAt {tree : Tree} {preferences : Option PreferencesFile}
    {root : Path} {failure : Failure} (fails : openAt tree preferences root = .error failure) :
    failure.EndsRendering := by
  unfold openAt at fails
  split at fails
  · split at fails
    · cases fails
      exact .config _
    · split at fails
      · cases fails
        exact .config _
      · cases fails
  · cases fails
    exact .notADirectory root

theorem Project.endsRendering_of_discover {project : Project} {tree : Tree} {failure : Failure}
    (fails : project.discover tree = .error failure) : failure.EndsRendering := by
  unfold discover at fails
  cases discovered : Discovery.ofTree tree project.settings project.root with
  | ok discovery =>
      rw [discovered] at fails
      cases fails
  | error error =>
      rw [discovered] at fails
      cases fails
      exact .unreadableRoot _ error

/-- The output of a command that has rendered a project. -/
def Writing.shown (root : Path) (summary : Summary) (failures : List SourceError)
    (written : List Path) : OutputFormat → List String
  | .json => [(Writing.json written summary failures).alphabetical.text]
  | .text => Writing.lines root written ++ [Writing.summaryLine written]

/-- How writing documents ends a command. -/
def Writing.result (writing : Writing) : Except Failure Unit :=
  match writing.failure? with
  | some failure => .error failure
  | none => .ok ()

theorem Writing.exitCode_result {writing : Writing}
    (ends : ∀ failure, writing.failure? = some failure → failure.EndsRendering) :
    Command.exitCode writing.result = if writing.failure? = none then 0 else 1 := by
  unfold result
  cases fails : writing.failure? with
  | none => rfl
  | some failure => exact (ends failure fails).code_eq

namespace Command

open Session

variable {world : World} {root : Path} {project : Project} {offline : Bool}

/-- A command that cannot set up its work tells why and does nothing else. -/
theorem render_fails {target : RenderTarget} (format : OutputFormat)
    (stuck : ∀ project discovery, ¬ SetsUp world root offline project discovery) :
    ∃ failure events, failure.EndsRendering ∧
      (render world format root target offline).Tells world.tree events (.error failure) := by
  cases opens : Project.openAt world.tree world.preferences root with
  | error failure =>
      exact ⟨failure, _, Project.endsRendering_of_openAt opens,
        (openForLookups_fails offline opens).bind_error⟩
  | ok project =>
      have opening := openForLookups_tells offline opens
      cases listed : project.discover world.tree with
      | error failure =>
          have missing : (project.forLookups offline).discover world.tree = .error failure :=
            (Project.discover_forLookups project offline world.tree).trans listed
          exact ⟨failure, _, Project.endsRendering_of_discover listed,
            opening.bind (scan_fails missing).bind_error⟩
      | ok discovery =>
          have found : (project.forLookups offline).discover world.tree = .ok discovery :=
            (Project.discover_forLookups project offline world.tree).trans listed
          obtain ⟨notices, scanned⟩ := Project.scan_of_discover found
          have unusable : (project.forLookups offline).settings.probe.isUsable = false := by
            rw [← Bool.not_eq_true]
            exact fun usable => stuck project discovery ⟨opens, listed, usable⟩
          have evaluating : (evaluate world (project.forLookups offline)
              (.ofSources (.read world.tree discovery.documents))).Tells world.tree []
                (.error .noClient) := evaluate_fails unusable
          exact ⟨.noClient, _, .noClient,
            opening.bind ((scan_tells scanned).bind evaluating.bind_error)⟩

/-- After a writing, a command ends with its failure or shows what was written. -/
theorem exists_tells_result (writing : Writing) (format : OutputFormat) (root : Path)
    (summary : Summary) (failures : List SourceError) :
    ∃ events,
      Tells
        (match writing.failure? with
          | some failure => throw failure
          | none => do
            complain format (Writing.complaints failures)
            match format with
            | .json =>
              print [(Writing.json writing.written summary failures).alphabetical.text]
            | .text =>
              print (Writing.lines root writing.written)
              succeed format (Writing.summaryLine writing.written))
        writing.tree events writing.result ∧
      (writing.failure? = none → String.join (events.map Event.output) =
        unlines (Writing.shown root summary failures writing.written format)) := by
  unfold Writing.result
  cases writing.failure? with
  | some failure => exact ⟨_, tells_throw failure, by simp⟩
  | none =>
      cases format with
      | json =>
          refine ⟨_, (tells_tell _).bind (tells_tell _), ?_⟩
          intro _
          rw [List.map_append, String.join_append, join_output_complained, join_output_printed]
          exact String.empty_append
      | text =>
          refine ⟨_, (tells_tell _).bind ((tells_tell _).bind (tells_tell _)), ?_⟩
          intro _
          rw [← List.map_append, List.map_append, String.join_append, join_output_complained,
            join_output_printed]
          exact String.empty_append

/-- Rendering a project gives notices, writes its documents, and if that comes to the end shows what
was written. -/
theorem render_changes {found : Scan} {notices : List Notice} (offline : Bool)
    (target : RenderTarget) (format : OutputFormat)
    (opens : Project.openAt world.tree world.preferences root = .ok project)
    (scanned : (project.forLookups offline).scan world.tree = .ok (found, notices))
    (usable : (project.forLookups offline).settings.probe.isUsable = true) :
    let evaluation := evaluationIn world (project.forLookups offline) found
    let writing := (project.forLookups offline).write found evaluation target world.tree
    ∃ events,
      (render world format root target offline).Changes world.tree writing.tree events
        writing.result ∧
      (writing.failure? = none → String.join (events.map Event.output) =
        unlines (Writing.shown root (evaluation.summary found.resolution) found.failures
          writing.written format)) := by
  intro evaluation writing
  obtain ⟨events, ends, shows⟩ := exists_tells_result writing format root
    (evaluation.summary found.resolution) found.failures
  obtain ⟨noticed, goesOn⟩ := exists_noticed offline opens scanned usable
  refine ⟨noticed.map .noticed ++ (writing.notices.map .noticed ++ events), ?_, ?_⟩
  · apply goesOn
    refine tells_tree.bind_of_silent ?_
    refine (changes_setTree writing.tree).bind_of_silent ?_
    exact (tells_notice writing.notices).bind ends
  · intro complete
    simp only [List.map_append, String.join_append, join_output_noticed, shows complete,
      String.empty_append]

section Perform

variable {format : Option OutputFormat} {verbose : Bool} {target : RenderTarget}

theorem endsRendering_of_formatOf {invocation : CommandLine.Invocation} {failure : Failure}
    (fails : formatOf world invocation = .error failure) : failure.EndsRendering := by
  unfold formatOf at fails
  split at fails
  · cases fails
  · cases preferred : Preferences.ofFile? world.preferences with
    | ok preferences =>
        rw [preferred] at fails
        cases fails
    | error error =>
        rw [preferred] at fails
        cases fails
        exact .config error

theorem perform_render_of_stuck
    (stuck : ∀ project discovery, ¬ SetsUp world root offline project discovery) :
    ∃ failure events, failure.EndsRendering ∧
      (perform world ⟨format, verbose, .render root target offline⟩).Tells world.tree events
        (.error failure) := by
  cases chosen : formatOf world ⟨format, verbose, .render root target offline⟩ with
  | error failure =>
      exact ⟨failure, [], endsRendering_of_formatOf chosen, perform_fails chosen⟩
  | ok format =>
      obtain ⟨failure, events, ends, fails⟩ := render_fails format stuck
      exact ⟨failure, _, ends, perform_changes chosen fails⟩

/-- The writing of a project follows a plan, and can end only with certain failures. -/
theorem exists_plan_of_setsUp {discovery : Discovery} (target : RenderTarget)
    (setsUp : SetsUp world root offline project discovery) :
    let scan := Scan.ofSources (.read world.tree discovery.documents)
    let evaluation := evaluationIn world (project.forLookups offline) scan
    let writing := (project.forLookups offline).write scan evaluation target world.tree
    discovery.documents.Pairwise (fun left right => left < right) ∧
    (∀ failure, writing.failure? = some failure → failure.EndsRendering) ∧
    ∃ plan,
      List.Forall₂ (Writing.Plans (project.forLookups offline) scan evaluation target)
        (Writing.documents scan) plan ∧
      Writing.IsPlan world.tree discovery.documents root target scan.resolution evaluation
        project.settings.badges plan := by
  intro scan evaluation writing
  have listed : (project.forLookups offline).discover world.tree = .ok discovery :=
    (Project.discover_forLookups project offline world.tree).trans setsUp.listed
  have found := Project.ofTree_of_discover listed
  obtain ⟨-, settings, -, -, rfl⟩ := Project.exists_of_openAt setsUp.opens
  obtain ⟨plan, planned, isPlan⟩ := Writing.exists_plan
    ((Project.forLookups ⟨root, settings⟩ offline).settings.probe.probe world.tree world.fetch)
    target found
  exact ⟨Discovery.ascending_documents found,
    fun failure fails => Writing.endsRendering_of_failure? planned fails, plan, planned, isPlan⟩

theorem perform_render_of_setsUp {discovery : Discovery}
    (setsUp : SetsUp world root offline project discovery) :
    let scan := Scan.ofSources (.read world.tree discovery.documents)
    let evaluation := evaluationIn world (project.forLookups offline) scan
    let writing := (project.forLookups offline).write scan evaluation target world.tree
    ∃ chosen events,
      formatOf world ⟨format, verbose, .render root target offline⟩ = .ok chosen ∧
      (perform world ⟨format, verbose, .render root target offline⟩).Changes world.tree
        writing.tree events writing.result ∧
      (writing.failure? = none → String.join (events.map Event.output) =
        unlines (Writing.shown root (evaluation.summary scan.resolution) scan.failures
          writing.written chosen)) := by
  intro scan evaluation writing
  obtain ⟨preferences, -, preferred, -⟩ := Project.exists_of_openAt setsUp.opens
  have found : (project.forLookups offline).discover world.tree = .ok discovery :=
    (Project.discover_forLookups project offline world.tree).trans setsUp.listed
  obtain ⟨notices, scanned⟩ := Project.scan_of_discover found
  obtain ⟨events, renders, shows⟩ := render_changes offline target
    (format.getD preferences.format) setsUp.opens scanned setsUp.usable
  have chosen : formatOf world ⟨format, verbose, .render root target offline⟩ =
      .ok (format.getD preferences.format) := formatOf_of_preferred preferred
  refine ⟨_, _, chosen, perform_changes chosen renders, ?_⟩
  intro complete
  simp only [List.map_cons, List.map_append, String.join_cons, String.join_append,
    join_output_closing, Event.output, String.empty_append, String.append_empty]
  exact shows complete

end Perform

end Command

theorem makeTemporary_selfLinking (bytes : ByteArray) :
    ∃ path staged, selfLinking.tree.makeTemporary ⟨"."⟩ bytes = .ok (path, staged) ∧
      staged.shortage? = none := by
  have steps : Step.ofBytes (Text.utf8 ".") = [.stay] := by decide +kernel
  have arrived : selfLinking.tree.arrive false ⟨"."⟩ = .ok (.entry [] .directory rfl) := by
    have sound : Tree.byteFault? ⟨"."⟩ = none := by decide +kernel
    unfold Tree.arrive
    rw [sound, steps]
    exact (Tree.walk_stay rfl).trans (Tree.walk_nil rfl)
  have sound : Tree.byteFault? (Path.join ⟨"."⟩ ⟨(Name.temporary 0).bytes⟩) = none := by
    decide +kernel
  have free : selfLinking.tree.find? [Name.temporary 0] = none := by decide +kernel
  have names : (List.range (selfLinking.tree.rows.length + 1)).map Name.temporary =
      [Name.temporary 0, Name.temporary 1] := rfl
  unfold Tree.makeTemporary
  rw [arrived]
  dsimp only
  rw [names]
  unfold Tree.makeFile
  rw [sound]
  dsimp only
  split
  · exact ⟨_, _, rfl, rfl⟩
  · next other found => cases free.symm.trans found

theorem writeDocument_selfLinking (text : String) :
    ∃ written, selfLinking.tree.writeDocument ⟨"./a.md"⟩ text = (.ok (), written) := by
  obtain ⟨path, staged, made, room⟩ := makeTemporary_selfLinking text.toUTF8
  obtain ⟨temporary, isStaged, -, moves⟩ := Tree.exists_isStaged_of_makeTemporary made
  have above : Tree.directoryOf ⟨"./a.md"⟩ = ⟨"."⟩ := by decide +kernel
  have joined : (⟨"./a.md"⟩ : Path) = Path.join ⟨"."⟩ ⟨selfLinkingName.bytes⟩ := by decide +kernel
  have opened : (Text.utf8 "./a.md").getLast? ≠ some Path.slash := by decide +kernel
  have entered : (staged.remove temporary).directory ⟨"."⟩ = .ok [] :=
    directory_here isStaged.workingDirectory
  obtain ⟨inside, approached⟩ : ∃ inside, (staged.remove temporary).approach ⟨"./a.md"⟩ =
      .ok (⟨[], inside⟩, .into selfLinkingName) := by
    rw [joined]
    exact Tree.exists_approach_join entered (by decide +kernel)
  have isThere : (staged.remove temporary).find? [selfLinkingName] =
      some (.file selfLinkingText.toUTF8) := isStaged.extends_remove.kept rfl
  have noNul : (Text.utf8 "./a.md").contains 0 = false := by decide +kernel
  have short : selfLinkingName.isTooLong = false := by decide +kernel
  unfold Tree.writeDocument
  rw [above, Tree.ensureDirectory_of_directory directory_selfLinking]
  dsimp only
  rw [made]
  dsimp only
  rw [room, moves, noNul]
  unfold Tree.replace
  rw [approached]
  simp [short, isThere, opened]

/-- The document of `selfLinking` has placeholders. -/
theorem cleanPlaceholders_selfLinking :
    cleanPlaceholders selfLinking.tree ⟨"./a.md"⟩ = ["!DACDOC a.md!", "!DACDOC ids=gone!"] := by
  unfold cleanPlaceholders
  rw [Tree.readText_of_locate locate_selfLinking]
  decide +kernel

theorem hasPlainPath_selfLinking : selfLinking.tree.HasPlainPath ⟨"./a.md"⟩ := by
  have steps : Step.ofBytes (Text.utf8 "./a.md") = [.stay, .into selfLinkingName] := by
    decide +kernel
  unfold Tree.HasPlainPath
  rw [steps]
  intro front isPrefix target
  have member := (List.mem_inits front _).mpr isPrefix
  have fronts : front = [] ∨ front = [.stay] ∨ front = [.stay, .into selfLinkingName] := by
    simpa using member
  rcases fronts with rfl | rfl | rfl <;> exact nofun

/-- The document can be written. -/
theorem failure?_selfLinking (evaluation : Evaluation) :
    (Project.write ⟨⟨"."⟩, {}⟩ selfLinkingScan evaluation .inPlace selfLinking.tree).failure? =
      none := by
  have isText := Tree.readText_of_locate locate_selfLinking
  have documents : Writing.documents selfLinkingScan = [(⟨"./a.md"⟩, selfLinkingText)] := by
    rw [Writing.documents_ofSources (List.pairwise_singleton _ _)]
    simp [cleanPlaceholders_selfLinking, Tree.source?, isText, Except.toOption]
  let rendered :=
    Rendering.render (Writing.outcome? selfLinkingScan evaluation ⟨"./a.md"⟩) {} selfLinkingText
  have plans : Writing.Plans ⟨⟨"."⟩, {}⟩ selfLinkingScan evaluation .inPlace
      (⟨"./a.md"⟩, selfLinkingText) (⟨"./a.md"⟩, rendered) := ⟨rfl, rfl⟩
  unfold Project.write
  rw [documents]
  rcases Writing.writeEach_cons_cases plans selfLinking.tree [] with
    ⟨failure, left, notices, fails, -⟩ | ⟨written, notices, -, work⟩
  · obtain ⟨written, succeeds⟩ := writeDocument_selfLinking rendered
    cases succeeds.symm.trans fails
  · rw [work]
    rfl

/-- One write is planned: the document goes over itself. -/
theorem exists_write_selfLinking {resolution : Resolution} {evaluation : Evaluation}
    {badges : Badges} {plan : List (Path × String)}
    (isPlan : Writing.IsPlan selfLinking.tree [⟨"./a.md"⟩] ⟨"."⟩ .inPlace resolution evaluation
      badges plan) :
    ∃ rendered, plan = [(⟨"./a.md"⟩, rendered)] ∧
      Writing.IsPlanned selfLinking.tree ⟨"."⟩ .inPlace resolution evaluation badges ⟨"./a.md"⟩
        (⟨"./a.md"⟩, rendered) := by
  have chosen : ([⟨"./a.md"⟩] : List Path).filter
      (fun document => cleanPlaceholders selfLinking.tree document ≠ []) = [⟨"./a.md"⟩] := by
    simp [cleanPlaceholders_selfLinking]
  have planned := isPlan.planned
  rw [chosen] at planned
  obtain ⟨⟨destination, rendered⟩, rest, own, others, rfl⟩ := List.forall₂_cons_left_iff.mp planned
  obtain rfl := List.forall₂_nil_left_iff.mp others
  obtain rfl : destination = ⟨"./a.md"⟩ := own.destination
  exact ⟨rendered, rfl, own⟩

theorem setsUp_selfLinking :
    Command.SetsUp selfLinking ⟨"."⟩ false ⟨⟨"."⟩, {}⟩ ⟨[⟨"./a.md"⟩], []⟩ :=
  ⟨openAt_selfLinking, discover_selfLinking, by decide +kernel⟩

theorem code_run_render_selfLinking {arguments : List Bytes}
    (asked : CommandLine.read (selfLinking.environment "DACDOC_OFFLINE") arguments =
      .ok ⟨none, false, .render ⟨"."⟩ .inPlace false⟩) :
    (Command.run selfLinking arguments).code = 0 := by
  obtain ⟨format, events, -, changes, -⟩ := Command.perform_render_of_setsUp setsUp_selfLinking
  obtain ⟨-, fails, -⟩ := Command.exists_plan_of_setsUp .inPlace setsUp_selfLinking
  rw [Command.code_run asked changes, Writing.exitCode_result fails]
  exact if_pos (failure?_selfLinking _)

end DocMarkers
