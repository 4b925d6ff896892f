import DocMarkers.Unicode.BinaryProperty

/-! # Expressions and what they match

An expression says what a pattern means. It is matched against a text by marking gaps between the
characters of the text: from the gaps where a match may begin, `Expression.reach` marks those where
it may end.
-/

namespace DocMarkers.Pattern

/-- A gap between the characters of a text: the characters before it, the nearest one first, and
those behind it. -/
structure Gap where
  before : List Char
  behind : List Char

namespace Gap

/-- A gap and those behind it. -/
def onward (before : List Char) : (behind : List Char) → List Gap
  | [] => [⟨before, []⟩]
  | c :: rest => ⟨before, c :: rest⟩ :: onward (c :: before) rest

/-- The gaps of a text. -/
def all (text : List Char) : List Gap :=
  onward [] text

end Gap

/-- What can be asked of a gap. -/
inductive Look where
  | textStart
  | textEnd
  | lineStart
  | lineEnd
  /-- The start of a line, where a carriage return ends lines too. -/
  | crlfLineStart
  /-- The end of a line, where a carriage return ends lines too. -/
  | crlfLineEnd
  /-- Something about the words around the gap, which consist of some characters. -/
  | words (isInWord : Char → Bool) (holds : (before behind : Bool) → Bool)

/-- Whether a gap has what is asked of it. -/
def Look.holds (look : Look) (gap : Gap) : Bool :=
  match look with
  | textStart => gap.before.isEmpty
  | textEnd => gap.behind.isEmpty
  | lineStart => gap.before.head?.all (· == '\n')
  | lineEnd => gap.behind.head?.all (· == '\n')
  | crlfLineStart =>
    gap.before.head?.all fun c => c == '\n' || (c == '\r' && gap.behind.head? != some '\n')
  | crlfLineEnd =>
    gap.behind.head?.all fun c => c == '\r' || (c == '\n' && gap.before.head? != some '\r')
  | words isInWord holds => holds (gap.before.head?.any isInWord) (gap.behind.head?.any isInWord)

/-- What a pattern means. -/
inductive Expression where
  /-- Nothing. -/
  | empty
  /-- One character of a set. -/
  | one (set : Char → Bool)
  /-- No character, at certain gaps. -/
  | look (look : Look)
  /-- One after another. -/
  | row (first second : Expression)
  /-- One of two. -/
  | either (first second : Expression)
  /-- One several times, which may be bounded. -/
  | repeated (least : Nat) (most : Option Nat) (body : Expression)

namespace Expression

/-- Takes a step so many times, or until it changes nothing. -/
def stepExactly (step : List Bool → List Bool) : (times : Nat) → List Bool → List Bool
  | 0, marks => marks
  | times + 1, marks =>
    let next := step marks
    if next = marks then marks else stepExactly step times next

/-- All marks from taking a step at most so many times. -/
def stepAtMost (step : List Bool → List Bool) : (times : Nat) → List Bool → List Bool
  | 0, marks => marks
  | times + 1, marks =>
    let next := List.zipWith or marks (step marks)
    if next = marks then marks else stepAtMost step times next

/-- The gaps of a text that a match may reach from marked ones. A match that goes round more often
than there are gaps reaches nothing new. -/
def reach (text : List Char) : Expression → List Bool → List Bool
  | empty, marks => marks
  | one set, marks => false :: List.zipWith (fun mark c => mark && set c) marks text
  | look asked, marks => List.zipWith (fun mark gap => mark && asked.holds gap) marks (Gap.all text)
  | row first second, marks => second.reach text (first.reach text marks)
  | either first second, marks => List.zipWith or (first.reach text marks) (second.reach text marks)
  | repeated least most body, marks =>
    stepAtMost (body.reach text) ((most.map (· - least)).getD (text.length + 1))
      (stepExactly (body.reach text) least marks)

/-- Whether an expression matches some part of a text. -/
def isFound (expression : Expression) (text : List Char) : Bool :=
  (expression.reach text (List.replicate (text.length + 1) true)).any id

end Expression

end DocMarkers.Pattern
