import DocMarkers.Link.Markdown
import DocMarkers.Link.Target

/-! # Checks

The checks of a project stand in one list, and composite checks refer to others by their place in
it. A check that several markers share therefore is one check.
-/

namespace DocMarkers

/-- The place of a check in the list of checks. -/
structure CheckId where
  index : Nat
  deriving DecidableEq, Inhabited

/-- The place as it is shown to readers. -/
def CheckId.text (id : CheckId) : String :=
  "#" ++ toString id.index

/-- Why a marker has no check that could be decided. -/
inductive UnknownReason where
  /-- The marker names a test that does not exist. -/
  | unrecognizedTest (test : String)
  /-- A composite marker refers to an id that no marker declares. -/
  | missingReference (id : String)
  /-- The composite marker refers to itself, directly or through others. -/
  | cyclicReference
  deriving DecidableEq

/-- The reason in words. -/
def UnknownReason.message : UnknownReason → String
  | unrecognizedTest test => "unrecognized test '" ++ test ++ "'"
  | missingReference id => "no marker with id '" ++ id ++ "'"
  | cyclicReference => "cyclic composite reference"

/-- Asks whether a link leads somewhere. -/
structure UrlCheck where
  /-- The document that holds the link. -/
  file : Path
  /-- The link. -/
  uri : String
  deriving DecidableEq

namespace UrlCheck

/-- The check of an argument found in `file`. -/
def ofArgument (file : Path) (argument : String) : UrlCheck :=
  ⟨file, Link.ofArgument argument⟩

/-- Where the link leads in the documentation at `root`. -/
def target (check : UrlCheck) (root : Path) : LinkTarget :=
  .classify check.uri check.file root

end UrlCheck

/-- What decides about a marker. -/
inductive Check where
  /-- The link has to lead somewhere. -/
  | url (check : UrlCheck)
  /-- All the checks referred to have to pass. -/
  | composite (checks : List CheckId)
  /-- Nothing can be decided. -/
  | unknown (reason : UnknownReason)
  deriving DecidableEq

namespace Check

/-- The checks that a check refers to. -/
def references : Check → List CheckId
  | composite checks => checks
  | _ => []

/-- Whether a check combines others. -/
def isComposite : Check → Bool
  | composite _ => true
  | _ => false

/-- Whether nothing can be decided. -/
def isUnknown : Check → Bool
  | unknown _ => true
  | _ => false

/-- A check in a few words. -/
def describe : Check → String
  | url check => "url " ++ check.uri
  | composite checks => "all of [" ++ ", ".intercalate (checks.map CheckId.text) ++ "]"
  | unknown reason => "unknown (" ++ reason.message ++ ")"

end Check

end DocMarkers
