import DocMarkers.Config.Settings

/-! # Failures

A failure ends a command. What is wrong with a single document is no failure: it is reported, and
the other documents are worked on.
-/

namespace DocMarkers

/-- Why a command cannot do its work, or that what it found is bad. -/
inductive Failure where
  /-- Settings or preferences cannot be used. -/
  | config (error : ConfigError)
  /-- The documentation root is no directory. -/
  | notADirectory (root : Path)
  /-- The documentation root cannot be listed. -/
  | unreadableRoot (root : Path) (error : FileError)
  /-- A document that does not lie below the root cannot be rendered into a directory. -/
  | outsideRoot (path : Path)
  /-- No request can be made with the settings. -/
  | noClient
  /-- A directory cannot be made. -/
  | directoryNotMade (path : Path) (error : FileError)
  /-- No temporary file can be made in a directory. -/
  | temporaryNotMade (directory : Path) (error : FileError)
  /-- A temporary file does not take the text of its document. -/
  | temporaryNotFilled (path : Path) (error : FileError)
  /-- A document cannot be put where it belongs. -/
  | documentNotReplaced (path : Path) (error : FileError)
  /-- The settings file of a new project cannot be written. -/
  | settingsNotWritten (path : Path) (error : FileError)
  /-- Checks failed, or documents could not be worked on. -/
  | checksFailed (checks files : Nat)
  /-- A path that is no text has no form as JSON. -/
  | pathNotText

/-- The wording of each failure. -/
def Failure.message : Failure → String
  | config error => error.message
  | notADirectory root => "Documentation root is not a directory: " ++ root.text
  | unreadableRoot root error =>
    "Failed to read documentation root: " ++ root.text ++ ": " ++ error.message
  | outsideRoot path => "Cannot render " ++ path.text ++ " outside the documentation root"
  | noClient => "Failed to build HTTP client: builder error: failed to parse header value"
  | directoryNotMade path error =>
    "Failed to create directory: " ++ path.text ++ ": " ++ error.message
  | temporaryNotMade directory error =>
    "Failed to create temp file in " ++ directory.text ++ ": " ++ error.message
  | temporaryNotFilled path error =>
    "Failed to write temp file: " ++ path.text ++ ": " ++ error.message
  | documentNotReplaced path error =>
    "Failed to replace " ++ path.text ++ ": failed to persist temporary file: " ++ error.message ++
      ": " ++ error.message
  | settingsNotWritten path error =>
    "Failed to write config: " ++ path.text ++ ": " ++ error.message
  | checksFailed checks files =>
    toString checks ++ " check(s) failed, " ++ toString files ++
      " file(s) could not be processed"
  | pathNotText => "path contains invalid UTF-8 characters"

/-- The exit code of each failure. The last one is not foreseen, and breaks the program off. -/
def Failure.code : Failure → Nat
  | pathNotText => 101
  | _ => 1

/-- No failure has the code of success. -/
theorem Failure.code_ne_zero (failure : Failure) : failure.code ≠ 0 := by
  cases failure <;> exact Nat.succ_ne_zero _

end DocMarkers
