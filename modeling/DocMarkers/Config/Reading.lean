import DocMarkers.Config.Settings
import DocMarkers.Toml.Read

/-! # Reading settings

Settings are written in TOML. A field that is not there keeps its default, a key that no field has
counts for nothing, and a value of the wrong type makes the whole document unusable.

A record is written as a table. An array stands for a record as well: it gives the fields in their
order, and those that it is too short for keep their defaults. A date is a record without fields.
-/

namespace DocMarkers

namespace Toml.Value

/-- A string. -/
def asString? : Value → Option String
  | string text => some text
  | _ => none

/-- A boolean. -/
def asBoolean? : Value → Option Bool
  | boolean value => some value
  | _ => none

/-- An integer that is not negative. -/
def asNatural? : Value → Option Nat
  | integer (.ofNat value) => some value
  | _ => none

/-- A list of strings. -/
def asStrings? : Value → Option (List String)
  | array items => items.mapM asString?
  | tables items => items.mapM asString?
  | _ => none

/-- The values of the fields of a record, as far as it has them. -/
def fields? (names : List String) : Value → Option (List (Option Value))
  | table _ entries => some (names.map fun name => entries.lookup name)
  | array items => some ((List.range names.length).map fun place => items[place]?)
  | tables items => some ((List.range names.length).map fun place => items[place]?)
  | date => some (names.map fun _ => none)
  | _ => none

/-- The value of a field: its default if it is not there. -/
def orDefault {α : Type} (read? : Value → Option α) (default : α) : Option Value → Option α
  | none => some default
  | some value => read? value

end Toml.Value

open Toml.Value

/-- The settings for look-ups that a value stands for. -/
def ProbeSettings.ofToml? (value : Toml.Value) : Option ProbeSettings := do
  match ← fields? ["offline", "timeout_secs", "user_agent"] value with
  | [offline, timeoutSeconds, userAgent] =>
    return {
      offline := ← orDefault asBoolean? ({} : ProbeSettings).offline offline
      timeoutSeconds := ← orDefault asNatural? ({} : ProbeSettings).timeoutSeconds timeoutSeconds
      userAgent := ← orDefault asString? ({} : ProbeSettings).userAgent userAgent }
  | _ => none

/-- The badges that a value stands for. -/
def Badges.ofToml? (value : Toml.Value) : Option Badges := do
  match ← fields? ["passed", "failed", "indeterminate"] value with
  | [passed, failed, indeterminate] =>
    return {
      passed := ← orDefault asString? ({} : Badges).passed passed
      failed := ← orDefault asString? ({} : Badges).failed failed
      indeterminate := ← orDefault asString? ({} : Badges).indeterminate indeterminate }
  | _ => none

namespace Settings

/-- The settings that the entries of a document stand for. -/
def ofToml? (entries : Toml.Entries) : Option Settings :=
  return {
    extensions := ← orDefault asStrings? ({} : Settings).extensions (entries.find? "extensions")
    exclude := ← orDefault asStrings? ({} : Settings).exclude (entries.find? "exclude")
    probe := ← orDefault ProbeSettings.ofToml? {} (entries.find? "probe")
    badges := ← orDefault Badges.ofToml? {} (entries.find? "render") }

/-- The settings in the text of the file at `path`. -/
def read (path : Path) (text : String) : Except ConfigError Settings :=
  match (Toml.read? text).bind ofToml? with
  | none => .error .malformedSettings
  | some settings =>
    match settings.fault? with
    | some fault => .error (.faultySettings path fault)
    | none => .ok settings

end Settings

namespace OutputFormat

/-- The format of a name. -/
def ofName? (name : String) : Option OutputFormat :=
  if name = "text" then some text
  else if name = "json" then some json
  else none

/-- The format that a value stands for: its name, or a table with its name as the only key and
nothing in it. -/
def ofToml? : Toml.Value → Option OutputFormat
  | .string name => ofName? name
  | .table _ [(name, .table _ [])] => ofName? name
  | .table _ [(name, .array [])] => ofName? name
  | _ => none

end OutputFormat

/-- The preferences in a text. -/
def Preferences.read (text : String) : Except ConfigError Preferences :=
  match (Toml.read? text).bind fun entries =>
      orDefault OutputFormat.ofToml? .text (entries.find? "default_format") with
  | none => .error .malformedPreferences
  | some format => .ok { format }

end DocMarkers
