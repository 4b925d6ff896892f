import DocMarkers.Rendering
import DocMarkers.Tree.Basic

/-! # Settings

A project has settings of its own, and its user has preferences. Settings that were read are used
only if they are sound: `Settings.fault?` finds the first thing that is wrong with them.
-/

namespace DocMarkers

/-- How links are looked up. -/
structure ProbeSettings where
  /-- Leave the network alone. -/
  offline : Bool := false
  /-- How long the answer to one request may take. -/
  timeoutSeconds : Nat := 10
  /-- The name under which requests are made. -/
  userAgent : String := "dacdoc/0.1.0"
  deriving DecidableEq

/-- The settings of a project. -/
structure Settings where
  /-- The extensions of documents, without the dot. -/
  extensions : List String := ["md"]
  /-- The names of directories that are left out. -/
  exclude : List String := ["target", "node_modules"]
  probe : ProbeSettings := {}
  badges : Badges := {}
  deriving DecidableEq

namespace Settings

/-- What can be wrong with settings. -/
inductive Fault where
  | noExtension
  | dottedExtension (extension : String)
  | zeroTimeout
  deriving DecidableEq

/-- The wording of each fault. -/
def Fault.message : Fault → String
  | noExtension => "extensions must not be empty"
  | dottedExtension extension =>
    "extension '" ++ extension ++ "' must be given without a leading dot"
  | zeroTimeout => "probe.timeout_secs must be positive"

/-- An extension that no document can have: an empty one, or one that starts with a dot. -/
def isDotted (extension : String) : Bool :=
  extension.isEmpty || extension.toList.head? == some '.'

/-- The first fault of settings. -/
def fault? (settings : Settings) : Option Fault :=
  if settings.extensions.isEmpty then some .noExtension
  else
    match settings.extensions.find? isDotted with
    | some extension => some (.dottedExtension extension)
    | none => if settings.probe.timeoutSeconds = 0 then some .zeroTimeout else none

/-- Whether two texts differ at most in the case of letters of ASCII. -/
def sameIgnoringCase (left right : String) : Bool :=
  left.toList.map Char.toLower == right.toList.map Char.toLower

/-- Whether a path has an extension of documents. -/
def isDocument (settings : Settings) (path : Path) : Bool :=
  (path.extension?.bind Text.text?).any fun extension =>
    settings.extensions.any (sameIgnoringCase extension)

/-- Whether a directory is left out: a hidden one is, one whose name is no text, and one whose name
the settings list. -/
def leavesOut (settings : Settings) (directory : Path) : Bool :=
  match directory.fileName?.bind Text.text? with
  | none => true
  | some name => name.toList.head? == some '.' || settings.exclude.contains name

end Settings

/-- How a command presents its results. -/
inductive OutputFormat where
  /-- For people. -/
  | text
  /-- One JSON value. -/
  | json
  deriving DecidableEq

/-- The preferences of a user. -/
structure Preferences where
  /-- The format of the output when none is asked for. -/
  format : OutputFormat := .text

/-- Why settings or preferences cannot be used. -/
inductive ConfigError where
  | unreadableSettings (path : Path) (error : FileError)
  | malformedSettings
  | faultySettings (path : Path) (fault : Settings.Fault)
  | unreadablePreferences (path : Path) (error : FileError)
  | malformedPreferences

namespace ConfigError

/-- What is said about a document that is not TOML, or that holds a value of the wrong type. -/
def malformedText : String :=
  "Failed to parse configuration: not valid TOML, or a value has the wrong type"

/-- The wording of each error. -/
def message : ConfigError → String
  | unreadableSettings path error =>
    "Failed to read project config: " ++ path.text ++ ": " ++ error.message
  | malformedSettings => "Failed to parse project config: " ++ malformedText
  | faultySettings path fault =>
    "Invalid project config: " ++ path.text ++ ": Invalid configuration: " ++ fault.message
  | unreadablePreferences path error =>
    "Failed to read global config: " ++ path.text ++ ": " ++ error.message
  | malformedPreferences => "Failed to parse global config: " ++ malformedText

end ConfigError

end DocMarkers
