import DocMarkers.Command.Run
import Mathlib.Logic.Basic

/-! # What a session does

A session is known by what it changes and tells and how it ends (`Session.Changes`); one that leaves
the tree alone only tells (`Session.Tells`). Steps in a row tell all that they tell, in order, up to
the first that fails. For checking a project this gives the whole session (`Command.check_tells`),
and from it the exit code of a run (`Command.code_run_check`).
-/

namespace DocMarkers

namespace Session

variable {α β : Type} {tree before middle after : Tree} {events later : List Event}

/-- A session turns one tree into another, tells these events and ends with this result. -/
def Changes (session : Session α) (before after : Tree) (events : List Event)
    (result : Except Failure α) : Prop :=
  ∀ told, session.run.run ⟨before, told⟩ = (result, ⟨after, told ++ events⟩)

/-- A session tells these events and ends with this result; the tree stays as it is. -/
abbrev Tells (session : Session α) (tree : Tree) (events : List Event) (result : Except Failure α) :
    Prop :=
  session.Changes tree tree events result

theorem tells_pure (value : α) : (pure value : Session α).Tells tree [] (.ok value) := by
  intro told
  rw [List.append_nil]
  rfl

theorem tells_throw (failure : Failure) :
    (throw failure : Session α).Tells tree [] (.error failure) := by
  intro told
  rw [List.append_nil]
  rfl

theorem tells_tree : Session.tree.Tells tree [] (.ok tree) := by
  intro told
  rw [List.append_nil]
  rfl

theorem changes_setTree (after : Tree) : (setTree after).Changes before after [] (.ok ()) := by
  intro told
  rw [List.append_nil]
  rfl

theorem tells_tell (events : List Event) : (tell events).Tells tree events (.ok ()) :=
  fun _ => rfl

theorem tells_expect (result : Except Failure α) : (expect result).Tells tree [] result := by
  cases result with
  | ok value => exact tells_pure value
  | error failure => exact tells_throw failure

variable {session : Session α} {rest : α → Session β}

/-- A session goes on with the result of its first part. -/
theorem Changes.bind {value : α} {result : Except Failure β}
    (first : session.Changes before middle events (.ok value))
    (second : (rest value).Changes middle after later result) :
    (session >>= rest).Changes before after (events ++ later) result := by
  intro told
  have run : (session >>= rest).run.run ⟨before, told⟩ =
      (rest value).run.run ⟨middle, told ++ events⟩ := by
    rw [ExceptT.run_bind, StateT.run_bind, first told]
    rfl
  rw [run, second, List.append_assoc]

theorem Changes.bind_of_silent {value : α} {result : Except Failure β}
    (first : session.Changes before middle [] (.ok value))
    (second : (rest value).Changes middle after later result) :
    (session >>= rest).Changes before after later result :=
  first.bind second

theorem Changes.bind_silent {value : α} {result : Except Failure β}
    (first : session.Changes before middle events (.ok value))
    (second : (rest value).Changes middle after [] result) :
    (session >>= rest).Changes before after events result := by
  have whole := first.bind second
  rwa [List.append_nil] at whole

/-- A part that fails ends the session. -/
theorem Changes.bind_error {failure : Failure}
    (first : session.Changes before after events (.error failure)) :
    (session >>= rest).Changes before after events (.error failure) := by
  intro told
  rw [ExceptT.run_bind, StateT.run_bind, first told]
  rfl

theorem tells_notice (notices : List Notice) :
    (notice notices).Tells tree (notices.map .noticed) (.ok ()) :=
  tells_tell _

/-- Two sessions do the same from a tree on. -/
def SameFrom (tree : Tree) (session other : Session α) : Prop :=
  ∀ told, session.run.run ⟨tree, told⟩ = other.run.run ⟨tree, told⟩

variable {other : Session α} {others : α → Session β}

theorem Changes.sameFrom {result : Except Failure α}
    (one : session.Changes before after events result)
    (two : other.Changes before after events result) : SameFrom before session other :=
  fun told => (one told).trans (two told).symm

theorem Changes.sameFrom_bind {value : α}
    (first : session.Changes before middle events (.ok value))
    (same : SameFrom middle (rest value) (others value)) :
    SameFrom before (session >>= rest) (session >>= others) := by
  intro told
  rw [ExceptT.run_bind, ExceptT.run_bind, StateT.run_bind, StateT.run_bind, first told]
  exact same _

theorem SameFrom.bind (same : SameFrom tree session other) (rest : α → Session β) :
    SameFrom tree (session >>= rest) (other >>= rest) := by
  intro told
  rw [ExceptT.run_bind, ExceptT.run_bind, StateT.run_bind, StateT.run_bind, same told]

end Session

/-- A project opens when the preferences and its settings can be read. -/
theorem Project.exists_of_openAt {tree : Tree} {preferences : Option PreferencesFile} {root : Path}
    {project : Project} (opens : openAt tree preferences root = .ok project) :
    ∃ preferred settings, Preferences.ofFile? preferences = .ok preferred ∧
      Settings.ofRoot tree root = .ok settings ∧ project = ⟨root, settings⟩ := by
  unfold openAt at opens
  split at opens
  · split at opens
    · cases opens
    · next preferred isPreferred =>
      split at opens
      · cases opens
      · next settings isSettings =>
        exact ⟨preferred, settings, isPreferred, isSettings, (Except.ok.inj opens).symm⟩
  · cases opens

theorem Settings.ofRoot_of_absent {tree : Tree} {root : Path}
    (absent : tree.isPresent (fileOf root) = false) : ofRoot tree root = .ok {} := by
  unfold ofRoot
  dsimp only
  rw [absent]
  rfl

/-- A directory without settings opens with the default ones. -/
theorem Project.openAt_of_absent {tree : Tree} {preferences : Option PreferencesFile}
    {preferred : Preferences} {root : Path} {location : Location}
    (entered : tree.directory root = .ok location)
    (isPreferred : Preferences.ofFile? preferences = .ok preferred)
    (absent : tree.isPresent (Settings.fileOf root) = false) :
    openAt tree preferences root = .ok ⟨root, {}⟩ := by
  unfold openAt Tree.isDirectory
  rw [entered, isPreferred, Settings.ofRoot_of_absent absent]
  rfl

/-- A project whose look-ups leave the network alone when that is wished, or when its settings say
so. -/
def Project.forLookups (project : Project) (offline : Bool) : Project :=
  let probe := { project.settings.probe with offline := offline || project.settings.probe.offline }
  { project with settings := { project.settings with probe } }

/-- What is shown of a report. -/
def CheckReport.shown (report : CheckReport) : OutputFormat → List Event
  | .json => [.printed report.json.text]
  | .text => report.lines.map .printed ++
      report.complaints.map fun message => .complained ("Error: " ++ message)

/-- How a report ends a session. -/
def CheckReport.result (report : CheckReport) (strict : Bool) : Except Failure Unit :=
  match report.failure? strict with
  | some failure => .error failure
  | none => .ok ()

/-- All is well with a report when it counts no failed check and no document that could not be
worked on. -/
theorem CheckReport.failure?_eq_none_iff {report : CheckReport} {strict : Bool} :
    report.failure? strict = none ↔ report.failedChecks strict = 0 ∧ report.failures = [] := by
  unfold failure?
  rw [ite_eq_right_iff]
  simp [Nat.pos_iff_ne_zero]

/-- The code of a report is 0 when all is well with it, and else 1. -/
theorem Command.exitCode_result (report : CheckReport) (strict : Bool) :
    exitCode (report.result strict) =
      if report.failedChecks strict = 0 ∧ report.failures = [] then 0 else 1 := by
  by_cases well : report.failedChecks strict = 0 ∧ report.failures = []
  · rw [if_pos well, CheckReport.result, CheckReport.failure?_eq_none_iff.mpr well]
    rfl
  · rw [if_neg well, CheckReport.result]
    cases ends : report.failure? strict with
    | none => exact absurd (CheckReport.failure?_eq_none_iff.mp ends) well
    | some failure =>
        obtain ⟨-, isFailure⟩ := Option.ite_none_right_eq_some.mp ends
        rw [← isFailure]
        rfl

namespace Command

open Session

variable {world : World} {root : Path} {project : Project}

theorem openProject_tells
    (opens : Project.openAt world.tree world.preferences root = .ok project) :
    (openProject world root).Tells world.tree
      ((Project.openNotices world.tree world.preferences root).map .noticed) (.ok project) := by
  refine tells_tree.bind_of_silent ((tells_notice _).bind_silent ?_)
  rw [opens]
  exact tells_expect _

theorem openProject_fails {failure : Failure}
    (fails : Project.openAt world.tree world.preferences root = .error failure) :
    (openProject world root).Tells world.tree
      ((Project.openNotices world.tree world.preferences root).map .noticed) (.error failure) := by
  refine tells_tree.bind_of_silent ((tells_notice _).bind_silent ?_)
  rw [fails]
  exact tells_expect _

theorem openForLookups_tells (offline : Bool)
    (opens : Project.openAt world.tree world.preferences root = .ok project) :
    (openForLookups world root offline).Tells world.tree
      ((Project.openNotices world.tree world.preferences root ++
        [Notice.opened root (project.forLookups offline).settings.probe.offline]).map .noticed)
      (.ok (project.forLookups offline)) := by
  rw [List.map_append]
  exact (openProject_tells opens).bind ((tells_notice _).bind_silent (tells_pure _))

theorem openForLookups_fails {failure : Failure} (offline : Bool)
    (fails : Project.openAt world.tree world.preferences root = .error failure) :
    (openForLookups world root offline).Tells world.tree
      ((Project.openNotices world.tree world.preferences root).map .noticed) (.error failure) :=
  (openProject_fails fails).bind_error

theorem scan_tells {tree : Tree} {found : Scan} {notices : List Notice}
    (scanned : project.scan tree = .ok (found, notices)) :
    (scan project).Tells tree (notices.map .noticed) (.ok found) := by
  have expected : (expect (project.scan tree)).Tells tree [] (.ok (found, notices)) := by
    rw [scanned]
    exact tells_expect _
  exact tells_tree.bind_of_silent
    (expected.bind_of_silent ((tells_notice _).bind_silent (tells_pure _)))

theorem scan_fails {tree : Tree} {failure : Failure}
    (fails : project.discover tree = .error failure) :
    (scan project).Tells tree [] (.error failure) := by
  have unscanned : (expect (project.scan tree)).Tells tree [] (.error failure) := by
    unfold Project.scan
    rw [fails]
    exact tells_expect (.error failure)
  exact tells_tree.bind_of_silent unscanned.bind_error

/-- The evaluation of a scanned project in a world. -/
def evaluationIn (world : World) (project : Project) (scan : Scan) : Evaluation :=
  .ofResolution scan.resolution project.root
    (project.settings.probe.probe world.tree world.fetch)

theorem evaluate_tells {scan : Scan} (usable : project.settings.probe.isUsable = true) :
    (evaluate world project scan).Tells world.tree
      (((evaluationIn world project scan).notices scan.resolution project.root).map .noticed)
      (.ok (evaluationIn world project scan)) := by
  unfold evaluate
  rw [if_pos usable]
  exact tells_tree.bind_of_silent ((tells_notice _).bind_silent (tells_pure _))

theorem evaluate_fails {found : Scan} (unusable : project.settings.probe.isUsable = false) :
    (evaluate world project found).Tells world.tree [] (.error .noClient) := by
  unfold evaluate
  rw [unusable]
  exact tells_throw _

theorem failure_tells (tree : Tree) (report : CheckReport) (strict : Bool) :
    Tells
      (match report.failure? strict with
        | some failure => throw failure
        | none => return ())
      tree [] (report.result strict) := by
  unfold CheckReport.result
  cases report.failure? strict with
  | some failure => exact tells_throw failure
  | none => exact tells_pure ()

/-- A command that looks links up opens the project, scans it and evaluates its checks. All this
only gives notices, and then the command goes on with what was found. -/
theorem exists_noticed {found : Scan} {notices : List Notice} (offline : Bool)
    (opens : Project.openAt world.tree world.preferences root = .ok project)
    (scanned : (project.forLookups offline).scan world.tree = .ok (found, notices))
    (usable : (project.forLookups offline).settings.probe.isUsable = true) :
    ∃ noticed : List Notice,
      ∀ (rest : Project → Scan → Evaluation → Session Unit) (after : Tree) (events : List Event)
        (result : Except Failure Unit),
        (rest (project.forLookups offline) found
          (evaluationIn world (project.forLookups offline) found)).Changes world.tree after events
            result →
        Changes
          (do
            let project ← openForLookups world root offline
            let scan ← scan project
            let evaluation ← evaluate world project scan
            rest project scan evaluation)
          world.tree after (noticed.map .noticed ++ events) result := by
  let opening := Project.openNotices world.tree world.preferences root ++
    [.opened root (project.forLookups offline).settings.probe.offline]
  let probing := (evaluationIn world (project.forLookups offline) found).notices found.resolution
    (project.forLookups offline).root
  refine ⟨opening ++ notices ++ probing, ?_⟩
  intro rest after events result works
  have whole : Changes
      (do
        let project ← openForLookups world root offline
        let scan ← scan project
        let evaluation ← evaluate world project scan
        rest project scan evaluation)
      world.tree after
      (opening.map .noticed ++ (notices.map .noticed ++ (probing.map .noticed ++ events)))
      result := by
    refine (openForLookups_tells offline opens).bind ?_
    refine (scan_tells scanned).bind ?_
    exact (evaluate_tells usable).bind works
  simpa only [List.map_append, List.append_assoc] using whole

/-- Checking a project gives notices, shows its report and ends as the report says. -/
theorem check_tells {found : Scan} {notices : List Notice} (offline strict : Bool)
    (opens : Project.openAt world.tree world.preferences root = .ok project)
    (scanned : (project.forLookups offline).scan world.tree = .ok (found, notices))
    (usable : (project.forLookups offline).settings.probe.isUsable = true) :
    let evaluation := evaluationIn world (project.forLookups offline) found
    let report := CheckReport.ofScan (project.forLookups offline) found evaluation
    ∃ noticed : List Notice, ∀ format, (check world format root offline strict).Tells world.tree
      (noticed.map .noticed ++ report.shown format) (report.result strict) := by
  intro evaluation report
  obtain ⟨noticed, goesOn⟩ := exists_noticed offline opens scanned usable
  refine ⟨noticed, ?_⟩
  intro format
  apply goesOn
  have ends := failure_tells world.tree report strict
  cases format with
  | json => exact (tells_tell _).bind_silent ends
  | text => exact (tells_tell _).bind ((tells_tell _).bind_silent ends)

/-- What is noticed when the work is done. -/
def closing : Except Failure Unit → List Event
  | .ok () => [.noticed .completed]
  | .error _ => []

/-- The format that a command line asks for, or else the preferred one. -/
def formatOf (world : World) (invocation : CommandLine.Invocation) : Except Failure OutputFormat :=
  match invocation.format with
  | some format => .ok format
  | none => ((Preferences.ofFile? world.preferences).mapError .config).map Preferences.format

theorem formatOf_of_preferred {invocation : CommandLine.Invocation} {preferences : Preferences}
    (preferred : Preferences.ofFile? world.preferences = .ok preferences) :
    formatOf world invocation = .ok (invocation.format.getD preferences.format) := by
  unfold formatOf
  rw [preferred]
  cases invocation.format <;> rfl

/-- A command is carried out in its format, and ends as its session does. -/
theorem perform_changes {invocation : CommandLine.Invocation} {format : OutputFormat}
    {after : Tree} {events : List Event} {result : Except Failure Unit}
    (chosen : formatOf world invocation = .ok format)
    (works : (session world format invocation.command).Changes world.tree after events result) :
    (perform world invocation).Changes world.tree after
      (.noticed .starting :: (events ++ closing result)) result := by
  have closes : (session world format invocation.command >>= fun _ =>
      Session.notice [.completed]).Changes world.tree after (events ++ closing result) result := by
    cases result with
    | ok value => exact works.bind (tells_notice [.completed])
    | error failure =>
        unfold closing
        rw [List.append_nil]
        exact works.bind_error
  unfold formatOf at chosen
  unfold perform
  cases asked : invocation.format with
  | some other =>
      rw [asked] at chosen
      obtain rfl := Except.ok.inj chosen
      refine (tells_pure other).bind_of_silent ?_
      exact (tells_notice [.starting]).bind closes
  | none =>
      rw [asked] at chosen
      cases preferred : Preferences.ofFile? world.preferences with
      | error error =>
          rw [preferred] at chosen
          cases chosen
      | ok preferences =>
          rw [preferred] at chosen
          obtain rfl := Except.ok.inj chosen
          refine (tells_expect (.ok preferences)).bind_of_silent ?_
          refine (tells_pure preferences.format).bind_of_silent ?_
          exact (tells_notice [.starting]).bind closes

/-- A command whose format cannot be told does nothing. -/
theorem perform_fails {invocation : CommandLine.Invocation} {failure : Failure}
    (fails : formatOf world invocation = .error failure) :
    (perform world invocation).Tells world.tree [] (.error failure) := by
  unfold formatOf at fails
  unfold perform
  cases asked : invocation.format with
  | some other =>
      rw [asked] at fails
      cases fails
  | none =>
      rw [asked] at fails
      cases preferred : Preferences.ofFile? world.preferences with
      | ok preferences =>
          rw [preferred] at fails
          cases fails
      | error error =>
          rw [preferred] at fails
          obtain rfl := Except.error.inj fails
          exact (tells_expect (.error (.config error))).bind_error

/-- A command that leaves the tree alone is carried out in the format that is asked for, or else in
the preferred one. -/
theorem perform_tells {invocation : CommandLine.Invocation} {preferences : Preferences}
    {events : OutputFormat → List Event} {result : Except Failure Unit}
    (preferred : Preferences.ofFile? world.preferences = .ok preferences)
    (works : ∀ format,
      (session world format invocation.command).Tells world.tree (events format) result) :
    (perform world invocation).Tells world.tree
      (.noticed .starting :: (events (invocation.format.getD preferences.format) ++
        closing result)) result :=
  perform_changes (formatOf_of_preferred preferred) (works _)

section Runs

variable {arguments : List Bytes} {invocation : CommandLine.Invocation} {after : Tree}
  {events : List Event} {result : Except Failure Unit}

/-- A run replies with what its session leaves. -/
theorem run_eq_finished
    (asked : CommandLine.read (world.environment "DACDOC_OFFLINE") arguments = .ok invocation)
    (performs : (perform world invocation).Changes world.tree after events result) :
    run world arguments =
      finished (.ofRequest (world.environment "RUST_LOG") invocation.verbose) result
        ⟨after, events⟩ := by
  unfold run
  rw [asked]
  dsimp only
  rw [performs []]
  rfl

/-- The exit code of a run tells how its session ends. -/
theorem code_run
    (asked : CommandLine.read (world.environment "DACDOC_OFFLINE") arguments = .ok invocation)
    (performs : (perform world invocation).Changes world.tree after events result) :
    (run world arguments).code = exitCode result := by
  rw [run_eq_finished asked performs]
  rfl

/-- The output of a run is what its session prints. -/
theorem stdout_run
    (asked : CommandLine.read (world.environment "DACDOC_OFFLINE") arguments = .ok invocation)
    (performs : (perform world invocation).Changes world.tree after events result) :
    (run world arguments).stdout = String.join (events.map Event.output) := by
  rw [run_eq_finished asked performs]
  rfl

/-- A run leaves the tree of its session. -/
theorem tree_run
    (asked : CommandLine.read (world.environment "DACDOC_OFFLINE") arguments = .ok invocation)
    (performs : (perform world invocation).Changes world.tree after events result) :
    (run world arguments).tree = after := by
  rw [run_eq_finished asked performs]
  rfl

end Runs

/-- A run that checks a project has the code 0 when nothing is wrong in the report, and else 1. -/
theorem code_run_check {arguments : List Bytes} {format : Option OutputFormat}
    {verbose offline strict : Bool} {found : Scan} {notices : List Notice}
    (asked : CommandLine.read (world.environment "DACDOC_OFFLINE") arguments =
      .ok ⟨format, verbose, .check root offline strict⟩)
    (opens : Project.openAt world.tree world.preferences root = .ok project)
    (scanned : (project.forLookups offline).scan world.tree = .ok (found, notices))
    (usable : (project.forLookups offline).settings.probe.isUsable = true) :
    let evaluation := evaluationIn world (project.forLookups offline) found
    let report := CheckReport.ofScan (project.forLookups offline) found evaluation
    (run world arguments).code =
      if report.failedChecks strict = 0 ∧ report.failures = [] then 0 else 1 := by
  intro evaluation report
  obtain ⟨preferences, -, preferred, -⟩ := Project.exists_of_openAt opens
  obtain ⟨noticed, checks⟩ := check_tells offline strict opens scanned usable
  rw [code_run asked (perform_tells preferred checks)]
  exact exitCode_result report strict

end Command

end DocMarkers
