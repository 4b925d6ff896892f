import DocMarkers.Config.Settings
import DocMarkers.Log.Message
import DocMarkers.Log.Plain
import DocMarkers.Pattern

/-! # Which notices are shown

A filter is written as directives with commas between them. A directive `level` holds for all
notices, `origin=level` for those whose origin starts with the given text, and `origin` alone shows
all of them. Of the directives that hold for a notice the one with the longest origin decides, and
of two as long the later one. Without any directive only errors are shown.

Behind a slash stands a pattern that the text of a notice has to match somewhere. Parts that cannot
be read are left out with a warning.
-/

namespace DocMarkers

namespace Level

/-- What is shown at most: nothing, or notices up to a level. -/
def ofName? (name : List Char) : Option (Option Level) :=
  let named (level : String) : Bool := Settings.sameIgnoringCase level (String.ofList name)
  if named "off" then some none
  else if named "error" then some (some error)
  else if named "warn" then some (some warn)
  else if named "info" then some (some info)
  else if named "debug" then some (some debug)
  else if named "trace" then some (some trace)
  else none

/-- The level as it stands in a log, in five places. -/
def label : Level → String
  | error => "ERROR"
  | warn => "WARN "
  | info => "INFO "
  | debug => "DEBUG"
  | trace => "TRACE"

end Level

namespace Log

/-- A part of a filter. -/
structure Directive where
  /-- What the origin of a notice has to start with, unless the directive holds for all. -/
  origin : Option (List Char)
  /-- The most detailed level that is shown, if any is. -/
  most : Option Level
  deriving DecidableEq

namespace Directive

/-- Whether a directive holds for an origin. -/
def holdsFor (directive : Directive) (origin : String) : Bool :=
  match directive.origin with
  | none => true
  | some start => start.isPrefixOf origin.toList

/-- The bytes of the origin of a directive. -/
def weight (directive : Directive) : Nat :=
  match directive.origin with
  | none => 0
  | some start => (String.ofList start).utf8ByteSize

/-- Whether a directive shows notices of a level. -/
def shows (directive : Directive) (level : Level) : Bool :=
  match directive.most with
  | none => false
  | some most => level.detail ≤ most.detail

/-- A directive, or the text that is wrong with it. -/
def read (text : List Char) : Except (List Char) Directive :=
  match Text.splitOn '=' text with
  | [single] =>
    match Level.ofName? single with
    | some most => .ok ⟨none, most⟩
    | none => .ok ⟨some single, some .trace⟩
  | [origin, level] =>
    if Text.trim level = [] then .ok ⟨some origin, some .trace⟩
    else
      match Level.ofName? (Text.trim level) with
      | some most => .ok ⟨some origin, most⟩
      | none => .error (Text.trim level)
  | _ => .error text

/-- Adds a directive to others, in the place of one for the same origin. -/
def addTo (directive : Directive) (others : List Directive) : List Directive :=
  if others.any (·.origin == directive.origin) then
    others.map fun other => if other.origin == directive.origin then directive else other
  else others ++ [directive]

end Directive

/-- A filter that was read. -/
structure Filter where
  directives : List Directive
  /-- What the text of a notice has to match. -/
  pattern : Option Pattern.Expression
  /-- What is said about the parts that cannot be read. -/
  warnings : List String

namespace Filter

/-- What is said about a part that cannot be read. -/
def warning (reason : String) : String :=
  "warning: " ++ reason ++ ", ignoring it"

/-- A part of a filter between quotes. -/
def invalid (part : List Char) : String :=
  "invalid logging spec '" ++ String.ofList part ++ "'"

/-- The filter of its directives. -/
def ofDirectives (text : List Char) : Filter :=
  let texts := (Text.splitOn ',' text).map Text.trim
  let readings := (texts.filter (!·.isEmpty)).map Directive.read
  { directives := (readings.filterMap Except.toOption).foldl (fun known next => next.addTo known) []
    pattern := none
    warnings := readings.filterMap fun
      | .ok _ => none
      | .error fault => some (warning (invalid fault)) }

/-- A filter with a pattern. -/
def withPattern (filter : Filter) (pattern : List Char) : Filter :=
  match Pattern.read pattern with
  | .ok expression => { filter with pattern := some expression }
  | .error reason =>
    { filter with
      warnings := filter.warnings ++ [warning ("invalid regex filter - " ++ reason)] }

/-- Reads a filter. -/
def read (text : String) : Filter :=
  match Text.splitOn '/' text.toList with
  | [directives] => ofDirectives directives
  | [directives, pattern] => (ofDirectives directives).withPattern pattern
  | _ => ⟨[], none, [warning (invalid text.toList ++ " (too many '/'s)")]⟩

/-- The directive that decides about an origin. -/
def deciding? (filter : Filter) (origin : String) : Option Directive :=
  let directives := if filter.directives.isEmpty then [⟨none, some .error⟩] else filter.directives
  (directives.filter (·.holdsFor origin)).foldl
    (fun best next =>
      match best with
      | none => some next
      | some best => if best.weight ≤ next.weight then some next else some best)
    none

/-- Whether a notice is shown. -/
def shows (filter : Filter) (notice : Notice) : Bool :=
  (filter.deciding? notice.origin).any (·.shows notice.level) &&
    filter.pattern.all (·.isFound notice.text.toList)

/-- The entry of a notice in a log, up to the end of its last line. Lines after the first are
indented. -/
def entry (notice : Notice) : String :=
  let text := Text.joinWith "\n    ".toList (Text.splitOn '\n' notice.text.toList)
  String.ofList <| plain <|
    ("[" ++ notice.level.label ++ " " ++ notice.origin ++ "] ").toList ++ text ++ ['\n']

/-- The filter of a run: the given one, or the one that the user's wish for detail stands for. -/
def ofRequest (given : Option String) (verbose : Bool) : Filter :=
  read (given.getD (if verbose then "dacdoc=debug" else "warn"))

end Filter

end Log

end DocMarkers
