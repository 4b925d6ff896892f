import DocMarkers.Pattern.Form

/-! # Going through a pattern

A cursor stands at a place of a pattern. A reader moves it forward and gives what it has read, or
the fault that it has found. Where the flag for it is set, blanks and comments do not count.
-/

namespace DocMarkers.Pattern

/-- A place of a pattern, and what is known there. -/
structure Cursor where
  /-- What is left of the pattern. -/
  rest : List Char
  place : Place
  /-- Whether blanks and comments do not count. -/
  ignoresBlanks : Bool
  /-- The names of the groups so far. -/
  names : List (List Char × Span)

namespace Cursor

/-- The cursor at the start of a pattern. -/
def ofPattern (pattern : List Char) : Cursor :=
  ⟨pattern, .start, false, []⟩

/-- The cursor behind the next character. -/
def bump (cursor : Cursor) : Cursor :=
  match cursor.rest with
  | [] => cursor
  | c :: rest => { cursor with rest, place := cursor.place.behind c }

/-- What is left behind blanks and comments, and its place; `comment` says whether a comment is
open. -/
def skipBlanksFrom : (comment : Bool) → List Char → Place → List Char × Place
  | _, [], place => ([], place)
  | true, c :: rest, place => skipBlanksFrom (c != '\n') rest (place.behind c)
  | false, c :: rest, place =>
    if Text.isBlank c then skipBlanksFrom false rest (place.behind c)
    else if c = '#' then skipBlanksFrom true rest (place.behind c)
    else (c :: rest, place)

/-- The cursor behind blanks and comments, if they do not count. -/
def skipBlanks (cursor : Cursor) : Cursor :=
  if cursor.ignoresBlanks then
    let (rest, place) := skipBlanksFrom false cursor.rest cursor.place
    { cursor with rest, place }
  else cursor

/-- The character behind the next one. Where blanks do not count it is looked for behind them and
behind the first sign of a comment. -/
def second? (cursor : Cursor) : Option Char :=
  let rest := cursor.rest.tail
  if cursor.ignoresBlanks then
    let counting :=
      match rest.dropWhile Text.isBlank with
      | '#' :: comment => comment.dropWhile Text.isBlank
      | more => more
    counting.head?.or rest.head?
  else rest.head?

end Cursor

/-- Reads a part of a pattern. -/
abbrev Reader := StateT Cursor (Except Fault)

namespace Reader

/-- The place of the cursor. -/
def here : Reader Place :=
  return (← get).place

/-- The next character. -/
def peek : Reader (Option Char) :=
  return (← get).rest.head?

/-- Goes past the next character. -/
def bump : Reader Unit :=
  modify Cursor.bump

/-- Goes past blanks and comments, if they do not count. -/
def skipBlanks : Reader Unit :=
  modify Cursor.skipBlanks

/-- Goes past the next character, and past blanks and comments behind it. -/
def bumpOver : Reader Unit := do
  bump
  skipBlanks

/-- Ends with a fault in a part of the pattern. -/
def fail {α : Type} (kind : FaultKind) (first behind : Place) : Reader α :=
  throw ⟨kind, first, behind⟩

/-- Ends with a fault at the next character. -/
def failAt {α : Type} (kind : FaultKind) (c : Char) : Reader α := do
  let place ← here
  fail kind place (place.behind c)

/-- Ends with a fault between two characters. -/
def failHere {α : Type} (kind : FaultKind) : Reader α := do
  let place ← here
  fail kind place place

/-- Goes past the first of some texts that comes next, if one does. -/
def takeAny (texts : List String) : Reader Bool := do
  let rest := (← get).rest
  match texts.find? (·.toList.isPrefixOf rest) with
  | some text =>
    for _ in text.toList do bump
    return true
  | none => return false

/-- Reads at most so many characters that are accepted. -/
def takeAtMost (accepts : Char → Bool) : Nat → Reader (List Char)
  | 0 => return []
  | most + 1 => do
    match ← peek with
    | some c =>
      if accepts c then
        bumpOver
        return c :: (← takeAtMost accepts most)
      else return []
    | none => return []

/-- Reads the characters up to one that is not accepted. -/
def takeWhile (accepts : Char → Bool) : Reader (List Char) := do
  takeAtMost accepts (← get).rest.length

end Reader

end DocMarkers.Pattern
