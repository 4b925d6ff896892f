/-! # The settings file of a new project

The text spells out the default settings, so that a project means the same with the new file and
without it.
-/

namespace DocMarkers.Settings

/-- The lines of a new settings file. -/
def templateLines : List String :=
  ["# dacdoc configuration",
    "",
    "# Extensions of documentation files to scan",
    "extensions = [\"md\"]",
    "",
    "# Directory names to skip (hidden directories are always skipped)",
    "exclude = [\"target\", \"node_modules\"]",
    "",
    "[probe]",
    "# Set to true to skip remote links",
    "offline = false",
    "timeout_secs = 10",
    "",
    "[render]",
    "passed = \"✅\"",
    "failed = \"❌\"",
    "indeterminate = \"❔\""]

/-- The text of a new settings file. -/
def template : String :=
  String.ofList (templateLines.flatMap fun line => line.toList ++ ['\n'])

end DocMarkers.Settings
