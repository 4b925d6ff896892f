import DocMarkers.Command.Session
import DocMarkers.CommandLine.Invocation
import DocMarkers.Config.Template
import DocMarkers.Project.Lookup
import DocMarkers.Report.Checks
import DocMarkers.Report.Listing
import DocMarkers.Report.Written

/-! # Running a command

`run` answers a command line: it gives the exit code, what is written to both outputs, and the tree
as it is afterwards. The code is 0 if the command has done its work and found nothing bad, 1 if it
has failed, and 2 if the command line makes no sense; a failure that was not foreseen has a code of
its own.
-/

namespace DocMarkers

/-- What a command finds around it. -/
structure World where
  tree : Tree
  /-- The file with the preferences of the user, if there is one. -/
  preferences : Option PreferencesFile
  /-- The variables of the environment. -/
  environment : String → Option String
  /-- Answers for addresses on the network. -/
  fetch : Fetch

/-- What a run leaves behind. -/
structure Reply where
  code : Nat
  stdout : String
  stderr : String
  tree : Tree

namespace Command

/-- Writes a settings file, unless there is one. -/
def init (format : OutputFormat) (root : Path) : Session Unit := do
  let path := Settings.fileOf root
  if (← Session.tree).isPresent path then
    Session.succeed format ("Configuration already present in " ++ root.text)
  else
    let (made, ready) := (← Session.tree).ensureDirectory root
    Session.setTree ready
    Session.expect (made.mapError (.directoryNotMade root))
    let (written, left) := ready.fillFile path Settings.template.toUTF8
    Session.setTree left
    Session.expect (written.mapError (.settingsNotWritten path))
    Session.succeed format ("Wrote " ++ path.text)

/-- Opens the project at a root. -/
def openProject (world : World) (root : Path) : Session Project := do
  let tree ← Session.tree
  Session.notice (Project.openNotices tree world.preferences root)
  Session.expect (Project.openAt tree world.preferences root)

/-- Opens the project at a root, which a wish to leave the network alone overrules. -/
def openForLookups (world : World) (root : Path) (offline : Bool) : Session Project := do
  let project ← openProject world root
  let probe := { project.settings.probe with offline := offline || project.settings.probe.offline }
  Session.notice [.opened root probe.offline]
  return { project with settings := { project.settings with probe } }

/-- Scans a project. -/
def scan (project : Project) : Session Scan := do
  let (scan, notices) ← Session.expect (project.scan (← Session.tree))
  Session.notice notices
  return scan

/-- Evaluates the checks of a scanned project. -/
def evaluate (world : World) (project : Project) (scan : Scan) : Session Evaluation := do
  if project.settings.probe.isUsable then
    let probe := project.settings.probe.probe (← Session.tree) world.fetch
    let evaluation := Evaluation.ofResolution scan.resolution project.root probe
    Session.notice (evaluation.notices scan.resolution project.root)
    return evaluation
  else throw .noClient

/-- Lists the markers of a project. -/
def list (world : World) (format : OutputFormat) (root : Path) : Session Unit := do
  let project ← openProject world root
  let scan ← scan project
  Session.notice [.listing scan.resolution.bound.length]
  match format with
  | .json =>
    Session.expect (Listing.expectJson scan.resolution)
    Session.print [(Listing.json root scan).alphabetical.text]
  | .text =>
    Session.print (Listing.lines root scan.resolution)
    Session.complain format (scan.failures.map SourceError.message)

/-- Checks the markers of a project. -/
def check (world : World) (format : OutputFormat) (root : Path) (offline strict : Bool) :
    Session Unit := do
  let project ← openForLookups world root offline
  let scan ← scan project
  let evaluation ← evaluate world project scan
  let report := CheckReport.ofScan project scan evaluation
  match format with
  | .json => Session.print [report.json.text]
  | .text =>
    Session.print report.lines
    Session.complain format report.complaints
  match report.failure? strict with
  | some failure => throw failure
  | none => return ()

/-- Writes the documents of a project with the outcomes of their markers. -/
def render (world : World) (format : OutputFormat) (root : Path) (target : RenderTarget)
    (offline : Bool) : Session Unit := do
  let project ← openForLookups world root offline
  let scan ← scan project
  let evaluation ← evaluate world project scan
  let writing := project.write scan evaluation target (← Session.tree)
  Session.setTree writing.tree
  Session.notice writing.notices
  match writing.failure? with
  | some failure => throw failure
  | none =>
    Session.complain format (Writing.complaints scan.failures)
    match format with
    | .json =>
      let summary := evaluation.summary scan.resolution
      Session.print [(Writing.json writing.written summary scan.failures).alphabetical.text]
    | .text =>
      Session.print (Writing.lines root writing.written)
      Session.succeed format (Writing.summaryLine writing.written)

/-- A command with its output in a format. -/
def session (world : World) (format : OutputFormat) : CommandLine.Command → Session Unit
  | .init root => init format root
  | .list root => list world format root
  | .check root offline strict => check world format root offline strict
  | .render root target offline => render world format root target offline

/-- All the work that a command line asks for. If it asks for no format, the preferences tell it. -/
def perform (world : World) (invocation : CommandLine.Invocation) : Session Unit := do
  let format ← match invocation.format with
    | some format => pure format
    | none =>
      let preferences := Preferences.ofFile? world.preferences
      pure (← Session.expect (preferences.mapError .config)).format
  Session.notice [.starting]
  session world format invocation.command
  Session.notice [.completed]

/-- How the program is used. -/
def usage : List String :=
  ["Verify the claims embedded in your documentation",
    "",
    "Usage: dacdoc [OPTIONS] <COMMAND>",
    "",
    "Commands:",
    "  init [ROOT]     Write a default .dacdoc.toml",
    "  list [ROOT]     List markers and the checks they resolve to",
    "  check [ROOT]    Evaluate every check; fails if any check fails",
    "                  [--offline] [--strict]",
    "  render [ROOT]   Write documentation with outcomes substituted for markers",
    "                  (--out <DIR> | --in-place) [--offline]",
    "",
    "Options:",
    "  -f, --format <FORMAT>  Output format: text or json",
    "  -v, --verbose          Enable debug logging",
    "  -V, --version          Print version",
    "  -h, --help             Print help"]

/-- The reply when there is no work to do. -/
def stopped (tree : Tree) : CommandLine.Stop → Reply
  | .usage => ⟨2, "", unlines usage, tree⟩
  | .help => ⟨0, unlines usage, "", tree⟩
  | .version none => ⟨0, unlines ["dacdoc 0.1.0"], "", tree⟩
  | .version (some name) => ⟨0, unlines ["dacdoc-" ++ name.text ++ " 0.1.0"], "", tree⟩

/-- The exit code of a finished session. -/
def exitCode : Except Failure Unit → Nat
  | .ok () => 0
  | .error failure => failure.code

/-- What is said last about a finished session. -/
def lastLines : Except Failure Unit → List String
  | .ok () => []
  | .error failure => ["Error: " ++ failure.message]

/-- The reply of a finished session. -/
def finished (filter : Log.Filter) (result : Except Failure Unit) (trace : Trace) : Reply where
  code := exitCode result
  stdout := String.join (trace.events.map Event.output)
  stderr := unlines filter.warnings ++ String.join (trace.events.map (Event.log filter)) ++
    unlines (lastLines result)
  tree := trace.tree

/-- Answers a command line. -/
def run (world : World) (arguments : List Bytes) : Reply :=
  match CommandLine.read (world.environment "DACDOC_OFFLINE") arguments with
  | .error stop => stopped world.tree stop
  | .ok invocation =>
    let (result, trace) := (perform world invocation).run.run ⟨world.tree, []⟩
    finished (.ofRequest (world.environment "RUST_LOG") invocation.verbose) result trace

end Command

end DocMarkers
