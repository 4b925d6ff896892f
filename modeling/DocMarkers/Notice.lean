import DocMarkers.Check
import DocMarkers.Marker.Basic

/-! # Notices

While it works, the program notices things that its user may want to know. A notice is a value; each
stage of the work returns its own in order, and the command line decides which of them are shown.
-/

namespace DocMarkers

/-- How important a notice is. -/
inductive Level where
  | error
  | warn
  | info
  | debug
  | trace
  deriving DecidableEq

/-- The place of a level in the order of detail: a log that shows a level shows all before it. -/
def Level.detail : Level → Nat
  | error => 1
  | warn => 2
  | info => 3
  | debug => 4
  | trace => 5

/-- What can be noticed. -/
inductive Notice where
  /-- The program starts. -/
  | starting
  /-- A documentation root is open. -/
  | opened (root : Path) (offline : Bool)
  /-- The command has done its work. -/
  | completed
  /-- So many occurrences are about to be listed. -/
  | listing (occurrences : Nat)
  /-- A bare clause that is not the first counts for nothing. -/
  | ignoredClause (clause raw : String)
  /-- A marker names a test that does not exist. -/
  | unrecognizedTest (test : String) (file : Path)
  /-- An id was declared before. -/
  | shadowed (id : String) (file first : Path)
  /-- A composite marker refers to an id that no marker declares. -/
  | unknownReference (file : Path) (id : String)
  /-- These checks refer to each other. -/
  | circle (members : List CheckId)
  /-- All references are resolved. -/
  | resolved (occurrences checks circles : Nat)
  /-- A link found in a file is about to be looked up. -/
  | probing (target : LinkTarget) (file : Path)
  /-- The root has no configuration file. -/
  | noConfig (root : Path)
  /-- A directory is left out. -/
  | skippedDirectory (path : Path)
  /-- A directory below the root cannot be read. -/
  | unreadableDirectory (path : Path) (reason : String)
  /-- So many documents are below the root. -/
  | foundFiles (count : Nat) (root : Path)
  /-- A document cannot be read. -/
  | unreadable (path : Path) (reason : String)
  /-- A document holds so many different markers. -/
  | foundMarkers (path : Path) (count : Nat)
  /-- A document holds a placeholder that cannot be read. -/
  | malformed (path : Path) (error : MarkerError)
  /-- A document was written with its outcomes. -/
  | rendered (path : Path)
  deriving DecidableEq

/-- How important each notice is. -/
def Notice.level : Notice → Level
  | shadowed .. | circle .. | unreadableDirectory .. | unreadable .. | malformed .. => .warn
  | rendered .. => .info
  | _ => .debug

end DocMarkers
