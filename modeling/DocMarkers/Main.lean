import DocMarkers.Command.Scope

/-! # The program

The program takes a picture of the files that its command is about, asks `Command.run` for the
reply, and carries it out: it writes the files that the reply has changed, and prints what is to be
printed. Addresses on the network are not asked for anything here, and stay undecided.
-/

namespace DocMarkers.Program

/-- The tree after a change, or as it was if the change is not possible. -/
def orSame (tree : Tree) : Except FileError Tree → Tree
  | .ok changed => changed
  | .error _ => tree

mutual

/-- Adds to a picture the entry at a path. A link is added with the place that it leads to; one that
leads nowhere is left out. -/
partial def addEntry (tree : Tree) (path : String) : IO Tree := do
  let place := (← IO.currentDir) / path
  match ← place.symlinkMetadata.toBaseIO with
  | .error _ => return tree
  | .ok data =>
    match data.type with
    | .dir => return orSame tree (tree.makeDirectory ⟨path⟩)
    | .symlink =>
      match ← (IO.FS.realPath place).toBaseIO with
      | .error _ => return tree
      | .ok goal =>
        let tree ← addPath tree goal.toString
        return orSame tree (tree.placeLink ⟨path⟩ goal.toString)
    | _ =>
      match ← (IO.FS.readBinFile place).toBaseIO with
      | .error _ => return tree
      | .ok bytes => return orSame tree (tree.writeFile ⟨path⟩ bytes)

/-- Adds to a picture all entries on the way along a path. -/
partial def addPath (tree : Tree) (path : String) : IO Tree := do
  let way := (Path.ancestors ⟨path⟩).reverse ++ [⟨path⟩]
  way.foldlM (fun tree step => addEntry tree step.text) tree

end

/-- Adds to a picture a directory with all that is below it. -/
partial def addBelow (tree : Tree) (path : String) : IO Tree := do
  let tree ← addEntry tree path
  let place := (← IO.currentDir) / path
  match ← place.symlinkMetadata.toBaseIO with
  | .error _ => return tree
  | .ok data =>
    if data.type == .dir then
      (← place.readDir).foldlM (fun tree entry => addBelow tree entry.path.toString) tree
    else return tree

/-- Adds to a picture all that a path leads to. -/
def addWhole (tree : Tree) (path : String) : IO Tree := do
  let tree ← addPath tree path
  match ← (IO.FS.realPath ((← IO.currentDir) / path)).toBaseIO with
  | .error _ => return tree
  | .ok goal => addBelow (← addPath tree goal.toString) goal.toString

/-- The file with the preferences of the user, if there is one. -/
def preferences : IO (Option PreferencesFile) := do
  let base ← match ← IO.getEnv "XDG_CONFIG_HOME", ← IO.getEnv "HOME" with
    | some base, home =>
      if (Path.mk base).isAbsolute then pure (some base) else pure (home.map (· ++ "/.config"))
    | none, home => pure (home.map (· ++ "/.config"))
  match base with
  | none => return none
  | some base =>
    let path := base ++ "/dacdoc/config.toml"
    let picture ← addWhole .empty path
    if picture.isPresent ⟨path⟩ then return some ⟨⟨path⟩, picture.readText ⟨path⟩⟩
    else return none

/-- The absolute path of a location. -/
def pathOf (location : Location) : String :=
  "/" ++ "/".intercalate (location.reverse.map Name.text)

/-- Whether an entry is what was there before. Links count as unchanged. -/
def isUnchanged : (before : Option Entry) → Entry → Bool
  | some (.file old), .file new => old.data == new.data
  | some .directory, .directory => true
  | _, .link _ => true
  | _, _ => false

/-- Makes the disk what a tree says, where the tree has changed. -/
def carryOut (before after : Tree) : IO Unit := do
  let changed := after.rows.filter fun row => !isUnchanged (before.find? row.1) row.2
  for (location, entry) in changed.reverse do
    let path := pathOf location
    match entry with
    | .directory => IO.FS.createDirAll path
    | .file bytes =>
      IO.FS.createDirAll (pathOf location.tail)
      IO.FS.writeBinFile (path ++ ".new") bytes
      IO.FS.rename (path ++ ".new") path
    | .link _ => pure ()

/-- The picture that a command needs. -/
def picture (world : World) (command : CommandLine.Command) : IO Tree := do
  let tree ← (Command.directories command).foldlM (fun tree path => addWhole tree path.text)
    world.tree
  let lookups := Command.lookups { world with tree } command
  lookups.foldlM (fun tree path => addPath tree path.text) tree

/-- Answers a command line. -/
def answer (arguments : List String) : IO UInt32 := do
  let here := (← IO.currentDir).toString
  let offline ← IO.getEnv "DACDOC_OFFLINE"
  let log ← IO.getEnv "RUST_LOG"
  let start ← addPath .empty here
  let world : World := {
    tree := orSame start (start.enter ⟨here⟩)
    preferences := ← preferences
    environment := fun name => if name = "RUST_LOG" then log else offline
    fetch := fun uri => .indeterminate (uri ++ " was not asked for") }
  let given := arguments.map Text.utf8
  let tree ← match CommandLine.read offline given with
    | .error _ => pure world.tree
    | .ok invocation => picture world invocation.command
  let reply := Command.run { world with tree } given
  carryOut tree reply.tree
  IO.print reply.stdout
  IO.eprint reply.stderr
  return reply.code.toUInt32

end DocMarkers.Program

/-- Runs the program. -/
def main (arguments : List String) : IO UInt32 :=
  DocMarkers.Program.answer arguments
