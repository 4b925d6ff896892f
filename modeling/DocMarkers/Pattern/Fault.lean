import DocMarkers.Text.Split

/-! # What is wrong with a pattern

A fault has a kind and a span: the part of the pattern that it is about. A report shows the pattern
with marks below the span, and says what is wrong.
-/

namespace DocMarkers.Pattern

/-- A place in a pattern, in front of a character or at the end. Lines and columns count from
one. -/
structure Place where
  offset : Nat
  line : Nat
  column : Nat
  deriving DecidableEq

namespace Place

/-- The place in front of a pattern. -/
def start : Place := ⟨0, 1, 1⟩

/-- The place behind a character. -/
def behind (place : Place) (c : Char) : Place :=
  if c = '\n' then ⟨place.offset + 1, place.line + 1, 1⟩
  else ⟨place.offset + 1, place.line, place.column + 1⟩

end Place

/-- The part of a pattern between two places. -/
structure Span where
  first : Place
  behind : Place
  deriving DecidableEq

namespace Span

/-- Whether a span begins and ends on one line. -/
def isOneLine (span : Span) : Bool :=
  span.first.line == span.behind.line

/-- Whether a span begins before another or, if they begin together, does not end after it. -/
def isBefore (span other : Span) : Bool :=
  span.first.offset < other.first.offset ||
    (span.first.offset == other.first.offset && span.behind.offset ≤ other.behind.offset)

end Span

/-- The kinds of faults. -/
inductive FaultKind where
  | tooNested (limit : Nat)
  | assertionInSet
  | reversedRange
  | rangeOfSets
  | unclosedSet
  | invalidDecimal
  | emptyHexadecimal
  | invalidHexadecimal
  | invalidDigit
  | incompleteEscape
  | unknownEscape
  | danglingNegation
  | duplicateFlag (first : Span)
  | repeatedNegation (first : Span)
  | missingFlag
  | unknownFlag
  | duplicateName (first : Span)
  | emptyName
  | invalidName
  | unclosedName
  | unclosedGroup
  | unopenedGroup
  | reversedCount
  | emptyCount
  | unclosedCount
  | nothingToRepeat
  | unclosedWordEdge
  | unknownWordEdge
  | unclosedWordEdgeOrCount
  | invalidProperty
  | backreference
  | lookAround
  | unicodeOff
  | notText
  | unknownProperty
  | unknownPropertyValue

/-- A fault and the part of the pattern that it is about. -/
structure Fault where
  kind : FaultKind
  span : Span

namespace FaultKind

/-- What is said about a kind of fault. -/
def message : FaultKind → String
  | tooNested limit =>
    "exceed the maximum number of nested parentheses/brackets (" ++ toString limit ++ ")"
  | assertionInSet => "invalid escape sequence found in character class"
  | reversedRange => "invalid character class range, the start must be <= the end"
  | rangeOfSets => "invalid range boundary, must be a literal"
  | unclosedSet => "unclosed character class"
  | invalidDecimal => "decimal literal invalid"
  | emptyHexadecimal => "hexadecimal literal empty"
  | invalidHexadecimal => "hexadecimal literal is not a Unicode scalar value"
  | invalidDigit => "invalid hexadecimal digit"
  | incompleteEscape => "incomplete escape sequence, reached end of pattern prematurely"
  | unknownEscape => "unrecognized escape sequence"
  | danglingNegation => "dangling flag negation operator"
  | duplicateFlag _ => "duplicate flag"
  | repeatedNegation _ => "flag negation operator repeated"
  | missingFlag => "expected flag but got end of regex"
  | unknownFlag => "unrecognized flag"
  | duplicateName _ => "duplicate capture group name"
  | emptyName => "empty capture group name"
  | invalidName => "invalid capture group character"
  | unclosedName => "unclosed capture group name"
  | unclosedGroup => "unclosed group"
  | unopenedGroup => "unopened group"
  | reversedCount => "invalid repetition count range, the start must be <= the end"
  | emptyCount => "repetition quantifier expects a valid decimal"
  | unclosedCount => "unclosed counted repetition"
  | nothingToRepeat => "repetition operator missing expression"
  | unclosedWordEdge =>
    "special word boundary assertion is either unclosed or contains an invalid character"
  | unknownWordEdge =>
    "unrecognized special word boundary assertion, " ++
      "valid choices are: start, end, start-half or end-half"
  | unclosedWordEdgeOrCount =>
    "found either the beginning of a special word boundary or a bounded repetition on a \\b " ++
      "with an opening brace, but no closing brace"
  | invalidProperty => "invalid Unicode character class"
  | backreference => "backreferences are not supported"
  | lookAround => "look-around, including look-ahead and look-behind, is not supported"
  | unicodeOff => "Unicode not allowed here"
  | notText => "pattern can match invalid UTF-8"
  | unknownProperty => "Unicode property not found"
  | unknownPropertyValue => "Unicode property value not found"

/-- Where the first of two things stands that exclude each other. -/
def first? : FaultKind → Option Span
  | duplicateFlag first | repeatedNegation first | duplicateName first => some first
  | _ => none

end FaultKind

namespace Fault

/-- The parts of a pattern that a report marks, in the order of the pattern. -/
def marked (fault : Fault) : List Span :=
  match fault.kind.first? with
  | none => [fault.span]
  | some other => if other.isBefore fault.span then [other, fault.span] else [fault.span, other]

/-- The lines of a pattern as a report shows them, from the pieces between line feeds. A carriage
return in front of a line feed is left out, and so is an empty last line. -/
def shownLines : List (List Char) → List (List Char)
  | [] => []
  | [last] => if last = [] then [] else [last]
  | piece :: more =>
    (if piece.getLast? = some '\r' then piece.dropLast else piece) :: shownLines more

/-- The marks below a line for the spans on it; `done` counts the characters before them. -/
def marksFrom : (done : Nat) → List Span → List Char
  | _, [] => []
  | done, span :: later =>
    let blanks := span.first.column - 1 - done
    let marks := max 1 (span.behind.column - span.first.column)
    List.replicate blanks ' ' ++ List.replicate marks '^' ++
      marksFrom (done + blanks + marks) later

/-- A text behind blanks, up to a width. -/
def padLeft (width : Nat) (text : List Char) : List Char :=
  List.replicate (width - text.length) ' ' ++ text

/-- A line of the pattern with its number, if lines are numbered in this width, and the marks below
it. -/
def shownLine (fault : Fault) (width number : Nat) (line : List Char) : List (List Char) :=
  let spans := fault.marked.filter fun span => span.isOneLine && span.first.line == number
  let margin := if width = 0 then 4 else width + 2
  let label := if width = 0 then [] else padLeft width (Nat.toDigits 10 number) ++ [':', ' ']
  (padLeft margin label ++ line) ::
    if spans.isEmpty then [] else [List.replicate margin ' ' ++ marksFrom 0 spans]

/-- What is said about a span on several lines. -/
def manyLines (span : Span) : String :=
  "on line " ++ toString span.first.line ++ " (column " ++ toString span.first.column ++
    ") through line " ++ toString span.behind.line ++ " (column " ++
    toString (span.behind.column - 1) ++ ")"

/-- The report of a fault. A pattern of several lines is shown between two rules, with numbers. -/
def report (fault : Fault) (pattern : List Char) : String :=
  let pieces := Text.splitOn '\n' pattern
  let lines := shownLines pieces
  let width := if pieces.length ≤ 1 then 0 else (Nat.toDigits 10 pieces.length).length
  let shown := lines.zipIdx.flatMap fun (line, index) => fault.shownLine width (index + 1) line
  let rule := if pieces.length ≤ 1 then [] else [String.ofList (List.replicate 79 '~')]
  let beyond := (fault.marked.filter (!·.isOneLine)).map manyLines
  "\n".intercalate <|
    ["regex parse error:"] ++ rule ++ shown.map String.ofList ++ rule ++ beyond ++
      ["error: " ++ fault.kind.message]

end Fault

end DocMarkers.Pattern
