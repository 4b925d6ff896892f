import DocMarkers.Tree.Basic

/-! # Walking along a path

A path is walked step by step from the root or from the working directory. Every step needs a
directory to start from, also the steps that lead nowhere: an empty one and a `.`. A symbolic link
on the way is followed, up to `linkLimit` of them.

`Tree.walk` ends at an entry, or at a free name in a directory when only the last entry of the path
is missing. `Tree.approach` walks to the directory of the last step and leaves that step to be
taken.
-/

namespace DocMarkers

/-- One step of a walk. -/
inductive Step where
  /-- Stay where one is, because nothing is written between two slashes or behind the last one. -/
  | gap
  /-- Stay where one is. -/
  | stay
  /-- Go to the directory above; the root is above itself. -/
  | up
  /-- Go to an entry of the directory. -/
  | into (name : Name)
  deriving DecidableEq

namespace Step

/-- The step that a segment of a path stands for. -/
def ofSegment (segment : Bytes) : Step :=
  if proper : Name.IsProper segment then into ⟨segment, proper⟩
  else if segment = [Path.dot, Path.dot] then up
  else if segment = [] then gap
  else stay

/-- The steps of a path. -/
def ofBytes (bytes : Bytes) : List Step :=
  (Text.splitOn Path.slash bytes).map ofSegment

end Step

/-- The most bytes that a name may have. -/
def Name.sizeLimit : Nat := 255

/-- Whether a name has too many bytes. -/
def Name.isTooLong (name : Name) : Bool :=
  name.bytes.length > sizeLimit

namespace Tree

/-- One more than the most bytes that a path may have. -/
def pathLimit : Nat := 4096

/-- The most links that one walk follows. -/
def linkLimit : Nat := 40

/-- Where a walk ends. -/
inductive Arrival (tree : Tree) where
  /-- At an entry. -/
  | entry (location : Location) (entry : Entry) (found : tree.find? location = some entry)
  /-- At a name that is free, in a directory. -/
  | vacant (name : Name) (parent : Location) (within : tree.find? parent = some .directory)
      (free : tree.find? (name :: parent) = none)

/-- Where the walk along a path starts, from the directory that a relative one belongs to. -/
def startOf (here : Location) (path : Path) : Location :=
  if path.isAbsolute then [] else here

/-- Whether steps are the slashes at the end of a path. -/
def areSlashes (steps : List Step) : Bool :=
  !steps.isEmpty && steps.all (· == .gap)

/-- Takes steps from a location; `links` more links are followed. Where a file is to be made, a name
with a slash behind it is refused, as that of a directory. -/
def walk (tree : Tree) (makesFile : Bool) (links : Nat) (here : Location) :
    List Step → Except FileError (Arrival tree)
  | [] =>
    match found : tree.find? here with
    | some entry => .ok (.entry here entry found)
    | none => .error .missing
  | step :: rest =>
    match within : tree.find? here with
    | none => .error .missing
    | some .directory =>
      match step with
      | .gap | .stay => walk tree makesFile links here rest
      | .up => walk tree makesFile links here.tail rest
      | .into name =>
        if makesFile && areSlashes rest then .error .isADirectory
        else if name.isTooLong then .error .nameTooLong
        else
          match free : tree.find? (name :: here) with
          | none => if rest.isEmpty then .ok (.vacant name here within free) else .error .missing
          | some (.link target) =>
            match links with
            | 0 => .error .tooManyLinks
            | links + 1 =>
              -- What a link stands for is walked from the directory that holds the link.
              let start := startOf here ⟨target⟩
              walk tree makesFile links start (Step.ofBytes target ++ rest)
          | some _ => walk tree makesFile links (name :: here) rest
    | some _ => .error .notADirectory
termination_by steps => (links, steps.length)

/-- Why no path of these bytes leads anywhere, if there is a reason in the bytes themselves. -/
def byteFault? (path : Path) : Option FileError :=
  if path.bytes.contains 0 then some .holdsNul
  else if path.bytes.isEmpty then some .missing
  else if path.bytes.length ≥ pathLimit then some .nameTooLong
  else none

/-- Walks along a path. -/
def arrive (tree : Tree) (makesFile : Bool) (path : Path) : Except FileError (Arrival tree) :=
  match byteFault? path with
  | some fault => .error fault
  | none =>
    let start := startOf tree.workingDirectory path
    tree.walk makesFile linkLimit start (Step.ofBytes path.bytes)

/-- The entry at the end of a path, with its location. -/
def locate (tree : Tree) (path : Path) : Except FileError (Location × Entry) := do
  match ← tree.arrive false path with
  | .entry location entry _ => return (location, entry)
  | .vacant .. => throw .missing

/-- A directory of a tree. -/
abbrev Directory (tree : Tree) :=
  { location : Location // tree.find? location = some .directory }

/-- The directory of the last step of a path, and that step; slashes at the end do not count. -/
def approach (tree : Tree) (path : Path) : Except FileError (Directory tree × Step) :=
  match byteFault? path with
  | some fault => .error fault
  | none =>
    let steps := Step.ofBytes (path.bytes.reverse.dropWhile (· == Path.slash)).reverse
    let start := startOf tree.workingDirectory path
    match tree.walk false linkLimit start steps.dropLast with
    | .error fault => .error fault
    | .ok (.entry location .directory found) => .ok (⟨location, found⟩, steps.getLast?.getD .stay)
    | .ok (.entry ..) => .error .notADirectory
    | .ok (.vacant ..) => .error .missing

end Tree

end DocMarkers
