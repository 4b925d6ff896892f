import DocMarkers.Config.Reading
import DocMarkers.Failure
import DocMarkers.Project.Scan

/-! # Projects

A project is a documentation root with its settings. Opening it reads the settings file at the root,
if there is one, and looks at the preferences of the user, which have to be sound as well.
-/

namespace DocMarkers

/-- The file with the preferences of a user, and what reading it gave. -/
structure PreferencesFile where
  path : Path
  content : Except FileError String

/-- The preferences of a user: the default ones if there is no file. -/
def Preferences.ofFile? : Option PreferencesFile → Except ConfigError Preferences
  | none => .ok {}
  | some file =>
    match file.content with
    | .error error => .error (.unreadablePreferences file.path error)
    | .ok text => Preferences.read text

namespace Settings

/-- The name of the settings file of a project. -/
def fileName : String := ".dacdoc.toml"

/-- The same name in its directory. -/
def entryName : Name := ⟨fileName, by decide +kernel⟩

/-- The settings file of the project at a root. -/
def fileOf (root : Path) : Path :=
  root.join ⟨fileName⟩

/-- The settings of the project at a root: the default ones if there is no file. -/
def ofRoot (tree : Tree) (root : Path) : Except ConfigError Settings :=
  let path := fileOf root
  if tree.isPresent path then
    match tree.readText path with
    | .error error => .error (.unreadableSettings path error)
    | .ok text => read path text
  else .ok {}

end Settings

/-- A documentation root with its settings. -/
structure Project where
  root : Path
  settings : Settings

namespace Project

/-- Opens the project at a root. -/
def openAt (tree : Tree) (preferences : Option PreferencesFile) (root : Path) :
    Except Failure Project :=
  if tree.isDirectory root then
    match Preferences.ofFile? preferences with
    | .error error => .error (.config error)
    | .ok _ =>
      match Settings.ofRoot tree root with
      | .error error => .error (.config error)
      | .ok settings => .ok ⟨root, settings⟩
  else .error (.notADirectory root)

/-- What is noticed when a project is opened. -/
def openNotices (tree : Tree) (preferences : Option PreferencesFile) (root : Path) : List Notice :=
  if tree.isDirectory root && (Preferences.ofFile? preferences).isOk &&
      !tree.isPresent (Settings.fileOf root) then
    [.noConfig root]
  else []

/-- Finds the documents of a project. -/
def discover (project : Project) (tree : Tree) : Except Failure Discovery :=
  (Discovery.ofTree tree project.settings project.root).mapError (.unreadableRoot project.root)

/-- What is noticed about the directories of a project that cannot be read. -/
def unreadableNotices (project : Project) (tree : Tree) : List Notice :=
  match Search.below tree project.settings project.root with
  | .ok search => search.notices
  | .error _ => []

/-- Scans the documents of a project; the notices are in the order of the work. -/
def scan (project : Project) (tree : Tree) : Except Failure (Scan × List Notice) := do
  let discovery ← project.discover tree
  let sources := Sources.read tree discovery.documents
  let scan := Scan.ofSources sources
  return (scan, project.unreadableNotices tree ++ discovery.notices project.root ++
    sources.notices ++ scan.notices)

end Project

end DocMarkers
