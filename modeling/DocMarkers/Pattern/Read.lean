import DocMarkers.Pattern.Bracket
import DocMarkers.Unicode.BinaryProperty

/-! # Reading a pattern

`Form.read` reads a pattern into its form. A pattern is a choice between rows; the parts of a row
are characters, sets, assertions and groups, which may be repeated. It is a fault if parts are
nested too deep.
-/

namespace DocMarkers.Pattern

/-- What has been read of a choice: the finished branches and the parts of the last one, the last
one first in both. -/
structure Progress where
  /-- Where the choice begins. -/
  start : Place
  /-- Where its last branch begins. -/
  rowStart : Place
  branches : List Form
  parts : List Form

namespace Progress

/-- The choice that begins at a place. -/
def startingAt (place : Place) : Progress :=
  ⟨place, place, [], []⟩

/-- A choice with one more part in its last branch. -/
def add (progress : Progress) (part : Form) : Progress :=
  { progress with parts := part :: progress.parts }

/-- The last branch, if it ends at a place. -/
def row (progress : Progress) (behind : Place) : Form :=
  match progress.parts with
  | [] => .empty
  | [part] => part
  | parts => .row ⟨progress.rowStart, behind⟩ parts.reverse

/-- A choice with a new branch. -/
def branch (progress : Progress) (behind next : Place) : Progress :=
  { progress with
    branches := progress.row behind :: progress.branches, parts := [], rowStart := next }

/-- The form of a choice that ends at a place. -/
def form (progress : Progress) (behind : Place) : Form :=
  match progress.branches with
  | [] => progress.row behind
  | branches => .choice ⟨progress.start, behind⟩ (progress.row behind :: branches).reverse

/-- The part that can be repeated, and the choice without it. -/
def takeLast? (progress : Progress) : Option (Form × Progress) :=
  match progress.parts with
  | [] | .flags _ :: _ => none
  | part :: parts => some (part, { progress with parts })

end Progress

/-- The part of a pattern that a form is. The form of nothing is nowhere. -/
def Form.span : Form → Span
  | .empty | .flags _ => ⟨.start, .start⟩
  | .atom written => written.span
  | .bracketed span _ _ | .repetition span _ _ | .group span _ _ _ | .row span _
  | .choice span _ => span

/-- The largest number that a count may have. -/
def countLimit : Nat := 4294967295

namespace Reader

/-- The number at the cursor, or what is wrong with it. Blanks around it do not count. -/
def decimal : Reader (Except Fault Nat) := do
  discard <| takeWhile Text.isBlank
  let first ← here
  let digits ← takeWhile Char.isDigit
  let span : Span := ⟨first, ← here⟩
  discard <| takeWhile Text.isBlank
  let value := digits.foldl (fun value digit => 10 * value + (digit.toNat - 0x30)) 0
  return if digits.isEmpty then .error ⟨.emptyCount, span⟩
    else if countLimit < value then .error ⟨.invalidDecimal, span⟩
    else .ok value

/-- A part with a sign behind it that says how often it is repeated. A question mark behind the sign
only says which of several matches is wanted. -/
def repetition (progress : Progress) (count : Count) : Reader Progress := do
  match progress.takeLast? with
  | none => failHere .nothingToRepeat
  | some (part, progress) =>
    bump
    if (← peek) = some '?' then bump
    return progress.add (.repetition ⟨part.span.first, ← here⟩ count part)

/-- A count in braces, at its opening brace. -/
def count : Reader Count := do
  let start ← here
  let unclosed {α : Type} : Reader α := do fail .unclosedCount start (← here)
  bumpOver
  if (← peek).isNone then unclosed
  let least ← decimal
  let result : Count ←
    match ← peek with
    | none => unclosed
    | some ',' => do
      bumpOver
      match ← peek with
      | none => unclosed
      | some '\x7d' => pure ⟨← least, none⟩
      | some _ => pure ⟨← least, some (← (← decimal))⟩
    | some _ => pure ⟨← least, some (← least)⟩
  if (← peek) != some '\x7d' then unclosed
  bumpOver
  if (← peek) = some '?' then bump
  if result.most.any (· < result.least) then fail .reversedCount start (← here)
  return result

/-- A part with a count behind it. -/
def countedRepetition (progress : Progress) : Reader Progress := do
  match progress.takeLast? with
  | none => failHere .nothingToRepeat
  | some (part, progress) =>
    let count ← count
    return progress.add (.repetition ⟨part.span.first, ← here⟩ count part)

/-- The flag that a letter stands for. -/
def flag? (c : Char) : Option Flag :=
  match c with
  | 'i' => some .ignoreCase
  | 'm' => some .multiLine
  | 's' => some .dotAll
  | 'U' => some .swapGreed
  | 'u' => some .unicode
  | 'R' => some .crlf
  | 'x' => some .ignoreBlanks
  | _ => none

/-- The flags up to a colon or a closing bracket, at most so many; `known` holds those so far with
their places, and `minus` the place of the sign that takes back what follows it. -/
def flagsFrom : (most : Nat) → (known : List (Flag × Bool × Span)) → (minus : Option Span) →
    (dangling : Bool) → Reader FlagChange
  | 0, _, _, _ => failHere .missingFlag
  | most + 1, known, minus, dangling => do
    let place ← here
    match ← peek with
    | none => failHere .missingFlag
    | some c =>
      let span : Span := ⟨place, place.behind c⟩
      if c = ':' ∨ c = ')' then
        match minus, dangling with
        | some minus, true => throw ⟨.danglingNegation, minus⟩
        | _, _ => return known.reverse.map fun (flag, isSet, _) => (flag, isSet)
      else if c = '-' then
        match minus with
        | some first => throw ⟨.repeatedNegation first, span⟩
        | none =>
          bump
          flagsFrom most known (some span) true
      else
        match flag? c with
        | none => throw ⟨.unknownFlag, span⟩
        | some flag =>
          match known.find? (·.1 == flag) with
          | some (_, _, first) => throw ⟨.duplicateFlag first, span⟩
          | none =>
            bump
            flagsFrom most ((flag, minus.isNone, span) :: known) minus false

/-- A letter of any alphabet, or the low line. -/
def startsName (c : Char) : Bool :=
  c == '_' || Unicode.BinaryProperty.alphabetic.holds c

/-- A character that may follow the first one of a name. -/
def continuesName (c : Char) : Bool :=
  startsName c || c == '.' || c == '[' || c == ']' ||
    Unicode.Category.numbers.contains (.ofChar c)

/-- The name of a group, up to the angle that closes it. -/
def groupName : Reader Unit := do
  let start ← here
  let text := (← get).rest.takeWhile (· != '>')
  for (c, index) in text.zipIdx do
    if if index = 0 then startsName c else continuesName c then bump
    else failAt .invalidName c
  let span : Span := ⟨start, ← here⟩
  if (← peek).isNone then failHere .unclosedName
  bump
  if text.isEmpty then fail .emptyName start start
  match (← get).names.find? (·.1 == text) with
  | some (_, first) => throw ⟨.duplicateName first, span⟩
  | none => modify fun cursor => { cursor with names := cursor.names ++ [(text, span)] }

/-- What an opening bracket begins. -/
inductive Opening where
  /-- Flags for the rest of the group around them. -/
  | flags (change : FlagChange)
  /-- A group. -/
  | group (captures : Bool) (change : FlagChange)

/-- What an opening bracket begins, at that bracket. -/
def groupOpening : Reader Opening := do
  let start ← here
  bump
  let behind ← here
  skipBlanks
  if ← takeAny ["?=", "?!", "?<=", "?<!"] then fail .lookAround start (← here)
  let inner ← here
  if ← takeAny ["?P<", "?<"] then
    groupName
    return .group true []
  else if ← takeAny ["?"] then
    if (← peek).isNone then fail .unclosedGroup start behind
    let change ← flagsFrom ((← get).rest.length + 1) [] none false
    let closing ← peek
    bump
    if closing = some ':' then return .group false change
    else if change.isEmpty then fail .nothingToRepeat inner inner
    else return .flags change
  else return .group true []

/-- Sets whether blanks count, if a change says so. -/
def applyBlanks (change : FlagChange) : Reader Unit :=
  modify fun cursor =>
    { cursor with ignoresBlanks := (change.state? .ignoreBlanks).getD cursor.ignoresBlanks }

/-- A character that stands for itself, for any character, or for an end of a line. -/
def atom (c : Char) : Reader Atom := do
  if c = '\\' then escape
  else
    let place ← here
    let span : Span := ⟨place, place.behind c⟩
    bump
    match c with
    | '.' => return .dot span
    | '^' => return .assertion span .lineStart
    | '$' => return .assertion span .lineEnd
    | _ => return .literal ⟨span, c, false⟩

/-- A choice up to the end or to a closing bracket, which is left. Every step goes past a character,
so as much fuel as there are characters, and one more, is enough. -/
def choice : (fuel : Nat) → Progress → Reader Form
  | 0, progress => return progress.form (← here)
  | fuel + 1, progress => do
    skipBlanks
    let place ← here
    match ← peek with
    | none | some ')' => return progress.form place
    | some '|' =>
      bump
      choice fuel (progress.branch place (← here))
    | some '(' =>
      match ← groupOpening with
      | .flags change =>
        applyBlanks change
        choice fuel (progress.add (.flags change))
      | .group captures change =>
        let ignoredBlanks := (← get).ignoresBlanks
        applyBlanks change
        let body ← choice fuel (.startingAt (← here))
        if (← peek).isNone then fail .unclosedGroup place (place.behind '(')
        modify fun cursor => { cursor with ignoresBlanks := ignoredBlanks }
        bump
        choice fuel (progress.add (.group ⟨place, ← here⟩ captures change body))
    | some '[' =>
      match ← set with
      | .bracketed span negated inner =>
        choice fuel (progress.add (.bracketed span negated inner))
      | other => choice fuel (progress.add (.bracketed other.span false other))
    | some '?' => choice fuel (← repetition progress ⟨0, some 1⟩)
    | some '*' => choice fuel (← repetition progress ⟨0, none⟩)
    | some '+' => choice fuel (← repetition progress ⟨1, none⟩)
    | some '\x7b' => choice fuel (← countedRepetition progress)
    | some c => choice fuel (progress.add (.atom (← atom c)))

/-- A whole pattern. -/
def pattern : Reader Form := do
  let form ← choice ((← get).rest.length + 1) (.startingAt (← here))
  match ← peek with
  | none => return form
  | some c => failAt .unopenedGroup c

end Reader

mutual

/-- The first part of a set that is nested deeper than there is room for. -/
def SetForm.beyond? : (room : Nat) → SetForm → Option Span
  | room, .bracketed span _ inner => if room = 0 then some span else inner.beyond? (room - 1)
  | room, .union span items =>
    if items.isEmpty then none
    else if room = 0 then some span
    else SetForm.beyondAny? (room - 1) items
  | room, .combined span _ left right =>
    if room = 0 then some span
    else (left.beyond? (room - 1)).or (right.beyond? (room - 1))
  | _, .literal _ | _, .range .. | _, .ascii .. | _, .property .. | _, .shorthand .. => none

/-- The first part of some sets that is nested deeper than there is room for. -/
def SetForm.beyondAny? : (room : Nat) → List SetForm → Option Span
  | _, [] => none
  | room, item :: items => (item.beyond? room).or (SetForm.beyondAny? room items)

end

mutual

/-- The first part of a form that is nested deeper than there is room for. -/
def Form.beyond? : (room : Nat) → Form → Option Span
  | _, .empty | _, .flags _ | _, .atom _ => none
  | room, .bracketed span _ inner => if room = 0 then some span else inner.beyond? (room - 1)
  | room, .repetition span _ body | room, .group span _ _ body =>
    if room = 0 then some span else body.beyond? (room - 1)
  | room, .row span parts | room, .choice span parts =>
    if room = 0 then some span else Form.beyondAny? (room - 1) parts

/-- The first part of some forms that is nested deeper than there is room for. -/
def Form.beyondAny? : (room : Nat) → List Form → Option Span
  | _, [] => none
  | room, part :: parts => (part.beyond? room).or (Form.beyondAny? room parts)

end

/-- How deep parts may be nested. -/
def depthLimit : Nat := 250

/-- Reads a pattern into its form. -/
def Form.read (pattern : List Char) : Except Fault Form := do
  let (form, _) ← Reader.pattern.run (.ofPattern pattern)
  match form.beyond? depthLimit with
  | some span => throw ⟨.tooNested depthLimit, span⟩
  | none => return form

end DocMarkers.Pattern
