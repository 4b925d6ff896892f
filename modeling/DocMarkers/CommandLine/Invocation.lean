import DocMarkers.CommandLine.Token
import DocMarkers.Config.Reading
import DocMarkers.Project.Write

/-! # What a command line asks for

The tokens are taken one after the other. Nothing may be given twice. The first fault ends the work,
and so do `--version` and `--help`, which win over all faults behind them. A value that stands apart
from its option is looked at when the next token of its side is taken, or at the end of that side.

`-f` and `-v` may stand on both sides of the name of the command; the format given behind the name
counts.
-/

namespace DocMarkers.CommandLine

/-- What ends the reading of a command line early. -/
inductive Stop where
  | usage
  | version (name : Option CommandName)
  | help
  deriving DecidableEq

/-- What one side of a command line gives. -/
structure Given where
  switches : List Switch := []
  format : Option OutputFormat := none
  out : Option Path := none
  operand : Option Path := none
  /-- An option whose value stands apart and has not been looked at. -/
  waiting : Option (Field × Bytes) := none

namespace Given

/-- Gives an option a value. -/
def assign (given : Given) (bytes : Bytes) : Field → Except Stop Given
  | .format =>
    match given.format, (Text.text? bytes).bind OutputFormat.ofName? with
    | none, some format => .ok { given with format := some format }
    | _, _ => .error .usage
  | .out =>
    if given.out.isNone && !bytes.isEmpty then .ok { given with out := some ⟨bytes⟩ }
    else .error .usage

/-- Looks at the value that waits, if one does. -/
def settle (given : Given) : Except Stop Given :=
  match given.waiting with
  | none => .ok given
  | some (field, bytes) => { given with waiting := none }.assign bytes field

/-- Takes one token on the side of `name`. -/
def take (name : Option CommandName) (given : Given) (token : Token) : Except Stop Given := do
  let given ← given.settle
  match token with
  | .switch switch =>
    if switch ∈ given.switches then throw .usage
    else return { given with switches := switch :: given.switches }
  | .value field bytes false => given.assign bytes field
  | .value field bytes true => return { given with waiting := some (field, bytes) }
  | .version => throw (.version name)
  | .help => throw .help
  | .operand bytes =>
    if given.operand.isSome || bytes.isEmpty then throw .usage
    else return { given with operand := some ⟨bytes⟩ }
  | .command .. | .fault => throw .usage

/-- Takes the tokens of one side. -/
def takeAll (name : CommandName) (given : Given) : List Token → Except Stop Given
  | [] => given.settle
  | token :: rest => do (← given.take (some name) token).takeAll name rest

end Given

/-- A command with all that it needs to know. -/
inductive Command where
  | init (root : Path)
  | list (root : Path)
  | check (root : Path) (offline strict : Bool)
  | render (root : Path) (target : RenderTarget) (offline : Bool)
  deriving DecidableEq

/-- A command line that was read. -/
structure Invocation where
  /-- The format that was asked for. -/
  format : Option OutputFormat
  verbose : Bool
  command : Command
  deriving DecidableEq

/-- Whether the network is left alone: if the switch is given, or else if the variable says so. -/
def isOffline (given : Given) (stated : Option String) : Except Stop Bool :=
  if Switch.offline ∈ given.switches then .ok true
  else if stated = none ∨ stated = some "false" then .ok false
  else if stated = some "true" then .ok true
  else .error .usage

/-- The command of a name and what was given for it. -/
def command (given : Given) (offlineVariable : Option String) :
    CommandName → Except Stop Command
  | .init => .ok (.init (given.operand.getD ⟨"."⟩))
  | .list => .ok (.list (given.operand.getD ⟨"."⟩))
  | .check => do
    return .check (given.operand.getD ⟨"."⟩) (← isOffline given offlineVariable)
      (decide (Switch.strict ∈ given.switches))
  | .render => do
    let offline ← isOffline given offlineVariable
    match given.out, decide (Switch.inPlace ∈ given.switches) with
    | some out, false => return .render (given.operand.getD ⟨"."⟩) (.directory out) offline
    | none, true => return .render (given.operand.getD ⟨"."⟩) .inPlace offline
    | _, _ => throw .usage

/-- The answer to `help`, which may be followed by the name of a command or by `help` itself. -/
def helpStop : List Bytes → Stop
  | [] => .help
  | [name] =>
    if name = Text.utf8 "help" ∨ (CommandName.ofBytes? name).isSome then .help else .usage
  | _ => .usage

/-- Reads a command line from what was given in front of the name of the command, and the tokens
from there on. -/
def readFrom (offlineVariable : Option String) (front : Given) :
    List Token → Except Stop Invocation
  | [] => .error .usage
  | .command name arguments :: _ =>
    if name = Text.utf8 "help" then .error (helpStop arguments)
    else
      match CommandName.ofBytes? name with
      | none => .error .usage
      | some name => do
        let behind ← ({} : Given).takeAll name (tokens (some name) arguments)
        let command ← command behind offlineVariable name
        let front ← front.settle
        return {
          format := behind.format.or front.format
          verbose := decide (Switch.verbose ∈ front.switches ++ behind.switches)
          command }
  | token :: rest => do
    readFrom offlineVariable (← front.take none token) rest

/-- Reads a command line. -/
def read (offlineVariable : Option String) (arguments : List Bytes) :
    Except Stop Invocation :=
  readFrom offlineVariable {} (tokens none arguments)

end DocMarkers.CommandLine
