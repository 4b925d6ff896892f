import DocMarkers.Pattern.Fault
import DocMarkers.Unicode.Query

/-! # The form of a pattern

The form of a pattern is what is written in it, before it is known which characters a set holds.
Every part knows its span, so that a fault that is found later can still be shown.
-/

namespace DocMarkers.Pattern

/-- A character that stands for itself, however it is written. -/
structure Literal where
  span : Span
  char : Char
  /-- Whether it is written by the two hexadecimal digits of a byte. -/
  isByte : Bool

/-- The sets with a name of one letter. -/
inductive Shorthand where
  | digit
  | space
  | word

/-- The sets of ASCII characters with a name. -/
inductive AsciiSet where
  | alnum
  | alpha
  | ascii
  | blank
  | cntrl
  | digit
  | graph
  | lower
  | print
  | punct
  | space
  | upper
  | word
  | xdigit

/-- The edges of words, and half of what makes them. -/
inductive WordEdge where
  /-- Between a character of a word and another one. -/
  | any
  /-- Not between a character of a word and another one. -/
  | none
  | start
  | stop
  /-- Not behind a character of a word. -/
  | halfStart
  /-- Not in front of a character of a word. -/
  | halfStop

/-- What a pattern can ask of a place. -/
inductive Assertion where
  | lineStart
  | lineEnd
  | textStart
  | textEnd
  | word (edge : WordEdge)

/-- What stands for one character or for one place. -/
inductive Atom where
  | literal (literal : Literal)
  | dot (span : Span)
  | assertion (span : Span) (assertion : Assertion)
  | property (span : Span) (negated : Bool) (query : Unicode.Query)
  | shorthand (span : Span) (negated : Bool) (shorthand : Shorthand)

/-- The part of the pattern that an atom is. -/
def Atom.span : Atom → Span
  | .literal written => written.span
  | .dot span | .assertion span _ | .property span _ _ | .shorthand span _ _ => span

/-- The ways of combining two sets. -/
inductive SetOperation where
  | intersection
  | difference
  | symmetricDifference

/-- What is written between brackets. -/
inductive SetForm where
  | literal (literal : Literal)
  | range (span : Span) (first last : Literal)
  | ascii (span : Span) (negated : Bool) (name : AsciiSet)
  | property (span : Span) (negated : Bool) (query : Unicode.Query)
  | shorthand (span : Span) (negated : Bool) (shorthand : Shorthand)
  | bracketed (span : Span) (negated : Bool) (inner : SetForm)
  | union (span : Span) (items : List SetForm)
  | combined (span : Span) (operation : SetOperation) (left right : SetForm)

/-- The part of the pattern that the form of a set is. -/
def SetForm.span : SetForm → Span
  | .literal written => written.span
  | .range span _ _ | .ascii span _ _ | .property span _ _ | .shorthand span _ _
  | .bracketed span _ _ | .union span _ | .combined span _ _ _ => span

/-- The flags that a pattern can set. -/
inductive Flag where
  | ignoreCase
  | multiLine
  | dotAll
  | swapGreed
  | unicode
  | crlf
  | ignoreBlanks
  deriving DecidableEq

/-- Flags as they are set: each with whether it is set or taken back. -/
abbrev FlagChange := List (Flag × Bool)

/-- What a change does to a flag, if anything. -/
def FlagChange.state? (change : FlagChange) (flag : Flag) : Option Bool :=
  (change.find? (·.1 == flag)).map (·.2)

/-- How often something is repeated. -/
structure Count where
  least : Nat
  most : Option Nat

/-- What is written in a pattern. -/
inductive Form where
  | empty
  | flags (change : FlagChange)
  | atom (atom : Atom)
  | bracketed (span : Span) (negated : Bool) (inner : SetForm)
  | repetition (span : Span) (count : Count) (body : Form)
  | group (span : Span) (captures : Bool) (change : FlagChange) (body : Form)
  | row (span : Span) (parts : List Form)
  | choice (span : Span) (branches : List Form)

end DocMarkers.Pattern
