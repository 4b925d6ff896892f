import DocMarkers.Notice
import DocMarkers.Text.Hexadecimal
import DocMarkers.Text.Standalone

/-! # What a notice says

Every notice has a text, and an origin: the part of the program that it comes from. Log filters
select notices by their origin.
-/

namespace DocMarkers

namespace Log

/-- A character as it is shown between quotes. -/
def escape (c : Char) : List Char :=
  if c = '"' then ['\\', '"']
  else if c = '\\' then ['\\', '\\']
  else if c = '\n' then ['\\', 'n']
  else if c = '\r' then ['\\', 'r']
  else if c = '\t' then ['\\', 't']
  else if c = '\x00' then ['\\', '0']
  else if Text.standsAlone c then [c]
  else ['\\', 'u', '\x7b'] ++ Text.hexadecimal c.toNat ++ ['\x7d']

/-- A text between quotes. -/
def quoted (text : String) : String :=
  "\"" ++ String.ofList (text.toList.flatMap escape) ++ "\""

/-- A byte as it is shown between quotes, in two digits. -/
def escapeByte (byte : UInt8) : List Char :=
  ['\\', 'x'] ++ (Text.hexadecimal byte.toNat).map Char.toUpper

/-- A part of a path as it is shown between quotes. Here a single quote is marked, too. -/
def escapePiece : Text.Piece → List Char
  | .char c => if c = '\'' then ['\\', '\''] else escape c
  | .stray bytes => bytes.flatMap escapeByte

/-- A path between quotes. -/
def quotedPath (path : Path) : String :=
  "\"" ++ String.ofList ((Text.pieces path.bytes).flatMap escapePiece) ++ "\""

/-- A link target, named by its kind. -/
def targetText : LinkTarget → String
  | .remote uri => "Remote(" ++ quoted uri ++ ")"
  | .file path => "Local(" ++ quotedPath path ++ ")"
  | .fragment link => "Fragment(" ++ quoted link ++ ")"
  | .unsupported uri => "Unsupported(" ++ quoted uri ++ ")"

/-- A check, named by its place. -/
def checkText (id : CheckId) : String :=
  "CheckId(" ++ toString id.index ++ ")"

end Log

namespace Notice

/-- The text of each notice. -/
def text : Notice → String
  | starting => "dacdoc 0.1.0 starting"
  | opened root offline =>
    "Opened " ++ root.text ++ " (offline: " ++ (if offline then "true" else "false") ++ ")"
  | completed => "Command completed successfully"
  | listing occurrences => "Listing " ++ toString occurrences ++ " occurrences"
  | ignoredClause clause raw => "Ignoring extra bare clause '" ++ clause ++ "' in " ++ raw
  | unrecognizedTest test file => "Unrecognized test '" ++ test ++ "' in " ++ file.text
  | shadowed id file first =>
    "Marker id '" ++ id ++ "' in " ++ file.text ++ " is shadowed by the same id in " ++ first.text
  | unknownReference file id =>
    "Composite in " ++ file.text ++ " references unknown id '" ++ id ++ "'"
  | circle members =>
    "Composite checks [" ++ ", ".intercalate (members.map Log.checkText) ++
      "] reference each other; marking them unknown"
  | resolved occurrences checks circles =>
    "Resolved " ++ toString occurrences ++ " occurrences into " ++ toString checks ++ " checks (" ++
      toString circles ++ " cycles)"
  | probing target file => "Probing " ++ Log.targetText target ++ " from " ++ file.text
  | noConfig root => "No .dacdoc.toml in " ++ root.text ++ ", using defaults"
  | skippedDirectory path => "Skipping directory " ++ path.text
  | unreadableDirectory path reason =>
    "Skipping unreadable directory " ++ path.text ++ ": " ++ reason
  | foundFiles count root =>
    "Found " ++ toString count ++ " documentation files under " ++ root.text
  | unreadable path reason => "Failed to read " ++ path.text ++ ": " ++ reason
  | foundMarkers path count => path.text ++ ": " ++ toString count ++ " markers"
  | malformed path error => path.text ++ ": " ++ error.message
  | rendered path => "Rendered " ++ path.text

/-- The part of the program that each notice comes from. -/
def origin : Notice → String
  | starting | opened .. | completed => "dacdoc::cli::app"
  | listing .. => "dacdoc::cli::list"
  | ignoredClause .. => "dacdoc::domain::marker"
  | unrecognizedTest .. | shadowed .. | unknownReference .. | circle .. | resolved .. =>
    "dacdoc::domain::resolve"
  | probing .. => "dacdoc::domain::evaluate"
  | noConfig .. => "dacdoc::storage::config"
  | skippedDirectory .. | unreadableDirectory .. | foundFiles .. => "dacdoc::storage::discover"
  | unreadable .. | foundMarkers .. | malformed .. | rendered .. => "dacdoc::storage::project"

end Notice

end DocMarkers
