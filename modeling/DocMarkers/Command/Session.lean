import DocMarkers.Config.Settings
import DocMarkers.Failure
import DocMarkers.Json
import DocMarkers.Log.Filter

/-! # Sessions

A session is a command at work. It may change the tree, and it leaves a trace of all that it tells
its user. A failure ends it; what was changed and told before stays.
-/

namespace DocMarkers

/-- Something that a command tells its user. -/
inductive Event where
  /-- A line of output. -/
  | printed (line : String)
  /-- A line beside the output. -/
  | complained (line : String)
  /-- A notice, shown only if the log is to have it. -/
  | noticed (notice : Notice)

/-- What a session has done so far. -/
structure Trace where
  tree : Tree
  /-- What was told, in order. -/
  events : List Event

/-- A command at work. -/
abbrev Session := ExceptT Failure (StateM Trace)

namespace Session

/-- The tree as it is now. -/
def tree : Session Tree :=
  return (← get).tree

/-- Replaces the tree. -/
def setTree (tree : Tree) : Session Unit :=
  modify fun trace => { trace with tree }

/-- Tells the user something. -/
def tell (events : List Event) : Session Unit :=
  modify fun trace => { trace with events := trace.events ++ events }

/-- Prints lines of output. -/
def print (lines : List String) : Session Unit :=
  tell (lines.map .printed)

/-- Gives notices. -/
def notice (notices : List Notice) : Session Unit :=
  tell (notices.map .noticed)

/-- Says in the format of the output that something is wrong. -/
def complain (format : OutputFormat) (messages : List String) : Session Unit :=
  tell (messages.map fun message => .complained <|
    match format with
    | .text => "Error: " ++ message
    | .json => (Json.object [("error", .string message), ("success", .bool false)]).text)

/-- Says in the format of the output that the command has done its work. -/
def succeed (format : OutputFormat) (message : String) : Session Unit :=
  print [
    match format with
    | .text => message
    | .json => (Json.object [("message", .string message), ("success", .bool true)]).text]

/-- Ends with a failure, or goes on with a result. -/
def expect {α : Type} : Except Failure α → Session α
  | .ok result => return result
  | .error failure => throw failure

end Session

/-- The text of lines, each with its end. -/
def unlines (lines : List String) : String :=
  String.join (lines.map (· ++ "\n"))

namespace Event

/-- What an event adds to the output. -/
def output : Event → String
  | printed line => unlines [line]
  | complained _ | noticed _ => ""

/-- What an event adds beside the output. -/
def log (filter : Log.Filter) : Event → String
  | printed _ => ""
  | complained line => unlines [line]
  | noticed notice => if filter.shows notice then Log.Filter.entry notice else ""

end Event

end DocMarkers
