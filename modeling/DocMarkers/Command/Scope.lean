import DocMarkers.Command.Run

/-! # The files that a command is about

A command works on a tree that has to be complete as far as the command looks into it. `directories`
are the directories that it looks into or writes to, with all that is in them; `lookups` are the
files that links of its documents lead to, which may lie anywhere.
-/

namespace DocMarkers.Command

/-- The directories that a command works on. -/
def directories : CommandLine.Command → List Path
  | .init root => [root]
  | .list root => [root]
  | .check root _ _ => [root]
  | .render root .inPlace _ => [root]
  | .render root (.directory out) _ => [root, out]

/-- The root whose links a command looks up, if it does. -/
def lookupRoot? : CommandLine.Command → Option Path
  | .check root _ _ => some root
  | .render root _ _ => some root
  | _ => none

/-- The files that the links of a check lead to. -/
def lookedUp? (root : Path) : Check → Option Path
  | .url check =>
    match check.target root with
    | .file path => some path
    | _ => none
  | _ => none

/-- The files that a command looks up. -/
def lookups (world : World) (command : CommandLine.Command) : List Path :=
  match lookupRoot? command with
  | none => []
  | some root =>
    match Project.openAt world.tree world.preferences root >>= (·.scan world.tree) with
    | .error _ => []
    | .ok (scan, _) => scan.resolution.checks.filterMap (lookedUp? root)

end DocMarkers.Command
