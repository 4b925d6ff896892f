import DocMarkers.Project.Basic
import DocMarkers.Tree.Edit

/-! # Writing rendered documents

The documents with placeholders are rendered and written one after the other, in the order of their
paths. The first one that cannot be written ends the work; what was written before it stays.
-/

namespace DocMarkers

/-- Where rendered documents go. -/
inductive RenderTarget where
  /-- Over the documents themselves. -/
  | inPlace
  /-- Below a directory, at the paths that they have below the root. -/
  | directory (path : Path)
  deriving DecidableEq

/-- Where the rendered form of a document goes. -/
def RenderTarget.destination? (root document : Path) : RenderTarget → Option Path
  | inPlace => some document
  | directory path => (Path.stripPrefix? root document).map path.join

namespace Tree

/-- The directory in which the file at the end of a path is made. -/
def directoryOf (path : Path) : Path :=
  match path.parent? with
  | none => ⟨"."⟩
  | some parent => if parent.bytes.isEmpty then ⟨"."⟩ else parent

/-- Puts a complete document at the end of a path, and makes the directory for it. The document is
written to a temporary file beside its place and then moved there; if one of the two fails, the
temporary file is taken away again. -/
def writeDocument (tree : Tree) (path : Path) (text : String) : Except Failure Unit × Tree :=
  match tree.ensureDirectory (directoryOf path) with
  | (.error error, left) => (.error (.directoryNotMade (directoryOf path) error), left)
  | (.ok (), ready) =>
    match ready.makeTemporary (directoryOf path) text.toUTF8 with
    | .error error => (.error (.temporaryNotMade (directoryOf path) error), ready)
    | .ok (temporary, staged) =>
      match staged.shortage? with
      | some error => (.error (.temporaryNotFilled temporary error), staged.without temporary)
      | none =>
        match staged.moveFile temporary path with
        | .error error => (.error (.documentNotReplaced path error), staged.without temporary)
        | .ok written => (.ok (), written)

end Tree

/-- What came of writing documents. -/
structure Writing where
  /-- The paths that were written, in order. -/
  written : List Path
  /-- Why the work ended early, if it did. -/
  failure? : Option Failure
  tree : Tree
  notices : List Notice

namespace Writing

section

variable (project : Project) (scan : Scan) (evaluation : Evaluation) (target : RenderTarget)

/-- The outcomes of the placeholders of a document. -/
def outcome? (document : Path) (raw : String) : Option Outcome :=
  Rendering.fileOutcome? scan.resolution evaluation document raw

/-- Writes one document. -/
def writeOne (tree : Tree) (document : Path) (text : String) : Except Failure Path × Tree :=
  match target.destination? project.root document with
  | none => (.error (.outsideRoot document), tree)
  | some destination =>
    let rendered :=
      Rendering.render (outcome? scan evaluation document) project.settings.badges text
    match tree.writeDocument destination rendered with
    | (.error failure, left) => (.error failure, left)
    | (.ok (), written) => (.ok destination, written)

/-- Writes documents one after the other. -/
def writeEach (tree : Tree) : List (Path × String) → Writing
  | [] => ⟨[], none, tree, []⟩
  | (document, text) :: rest =>
    let reread := Rendering.notices (outcome? scan evaluation document) text
    match writeOne project scan evaluation target tree document text with
    | (.error failure, left) => ⟨[], some failure, left, reread⟩
    | (.ok destination, written) =>
      let later := writeEach written rest
      { later with
        written := destination :: later.written
        notices := reread ++ .rendered destination :: later.notices }

end

/-- The documents with placeholders that can all be read, with their texts. -/
def documents (scan : Scan) : List (Path × String) :=
  scan.texts.entries.filter fun (path, _) => (scan.markers.find? path).any (!·.isEmpty)

end Writing

/-- Writes the rendered documents of a project. -/
def Project.write (project : Project) (scan : Scan) (evaluation : Evaluation)
    (target : RenderTarget) (tree : Tree) : Writing :=
  Writing.writeEach project scan evaluation target tree (Writing.documents scan)

end DocMarkers
