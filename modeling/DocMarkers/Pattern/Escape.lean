import DocMarkers.Pattern.Cursor
import DocMarkers.Text.Hexadecimal

/-! # Escapes

A backslash takes the special meaning from the character behind it, or gives it one.
-/

namespace DocMarkers.Pattern.Reader

/-- The characters that have a meaning in patterns. -/
def isSpecial (c : Char) : Bool :=
  "\\.+*?()|[]\x7b\x7d^$#&-~".toList.contains c

/-- Whether a backslash makes a character stand for itself: the special ones and all of ASCII but
letters, digits and the angles of words. -/
def isEscapable (c : Char) : Bool :=
  isSpecial c || (c < '\x80' && !c.isAlphanum && c != '<' && c != '>')

/-- The character that a backslash and a letter stand for. -/
def letterEscape? (c : Char) : Option Char :=
  match c with
  | 'a' => some '\x07'
  | 'f' => some '\x0c'
  | 't' => some '\t'
  | 'n' => some '\n'
  | 'r' => some '\r'
  | 'v' => some '\x0b'
  | _ => none

/-- The set that a backslash and a letter stand for, and whether it is the other way round. -/
def shorthand? (c : Char) : Option (Bool × Shorthand) :=
  match c with
  | 'd' => some (false, .digit)
  | 's' => some (false, .space)
  | 'w' => some (false, .word)
  | 'D' => some (true, .digit)
  | 'S' => some (true, .space)
  | 'W' => some (true, .word)
  | _ => none

/-- The assertion that a backslash and a character stand for. -/
def assertion? (c : Char) : Option Assertion :=
  match c with
  | 'A' => some .textStart
  | 'z' => some .textEnd
  | 'b' => some (.word .any)
  | 'B' => some (.word .none)
  | '<' => some (.word .start)
  | '>' => some (.word .stop)
  | _ => none

/-- The edge of words with a name. -/
def wordEdge? (name : List Char) : Option WordEdge :=
  if name = "start".toList then some .start
  else if name = "end".toList then some .stop
  else if name = "start-half".toList then some .halfStart
  else if name = "end-half".toList then some .halfStop
  else none

/-- A hexadecimal digit. -/
def isHexDigit (c : Char) : Bool :=
  (Text.hexValue? c).isSome

/-- The digits of a number with a fixed count of them. -/
def fixedDigits : (count : Nat) → Reader (List Char)
  | 0 => return []
  | count + 1 => do
    match ← peek with
    | none => failHere .incompleteEscape
    | some c =>
      if isHexDigit c then
        bumpOver
        return c :: (← fixedDigits count)
      else failAt .invalidDigit c

/-- The character with a code in braces, for an escape that begins at a place. -/
def bracedCode (start : Place) : Reader Literal := do
  let brace ← here
  bumpOver
  let digits ← takeWhile isHexDigit
  match ← peek with
  | none => fail .incompleteEscape brace (← here)
  | some c =>
    if c != '\x7d' then failAt .invalidDigit c
    else
      let closing ← here
      bumpOver
      if digits.isEmpty then fail .emptyHexadecimal brace (← here)
      else
        match Text.codePoint? digits with
        | some char => return ⟨⟨start, ← here⟩, char, false⟩
        | none => fail .invalidHexadecimal (brace.behind '\x7b') closing

/-- The character with a code of a fixed length, for an escape that begins at a place. -/
def fixedCode (start : Place) (length : Nat) : Reader Literal := do
  let first ← here
  let digits ← fixedDigits length
  let behind ← here
  match Text.codePoint? digits with
  | some char => return ⟨⟨start, behind⟩, char, length == 2⟩
  | none => fail .invalidHexadecimal first behind

/-- The character with a code, at the letter that says how long the code is. -/
def code (start : Place) (letter : Char) : Reader Literal := do
  bumpOver
  match ← peek with
  | none => failHere .incompleteEscape
  | some '\x7b' => bracedCode start
  | some _ => fixedCode start (if letter = 'x' then 2 else if letter = 'u' then 4 else 8)

/-- The question that the text between braces asks, and whether the answer is turned round. -/
def query (text : List Char) : Unicode.Query × Bool :=
  match Text.cutAt? "!=".toList text with
  | some (name, value) => (.valued name value, true)
  | none =>
    match (Text.cutFirst? ':' text).or (Text.cutFirst? '=' text) with
    | some (name, value) => (.valued name value, false)
    | none => (.named text, false)

/-- A property, at its letter. -/
def property (start : Place) (negated : Bool) : Reader Atom := do
  bumpOver
  match ← peek with
  | none => failHere .incompleteEscape
  | some '\x7b' =>
    bumpOver
    let text ← takeWhile (· != '\x7d')
    if (← peek).isNone then failHere .incompleteEscape
    else
      bump
      let (query, turned) := query text
      return .property ⟨start, ← here⟩ (negated != turned) query
  | some '\\' => failAt .invalidProperty '\\'
  | some c =>
    bumpOver
    return .property ⟨start, ← here⟩ negated (.named [c])

/-- The edge of words that is named in braces behind an escape. What does not begin like a name is
left for a count. -/
def namedWordEdge? (start : Place) : Reader (Option WordEdge) := do
  let before ← get
  bumpOver
  let isNamePart (c : Char) : Bool := c.isAlpha || c == '-'
  match ← peek with
  | none => fail .unclosedWordEdgeOrCount start (← here)
  | some c =>
    if isNamePart c then
      let first ← here
      let name ← takeWhile isNamePart
      let behind ← here
      if (← peek) != some '\x7d' then fail .unclosedWordEdge before.place behind
      else
        bump
        match wordEdge? name with
        | some edge => return some edge
        | none => fail .unknownWordEdge first behind
    else
      set before
      return none

/-- What a backslash and the character behind it, which the cursor has passed, stand for. -/
def simpleEscape (start : Place) (c : Char) : Reader Atom := do
  let span : Span := ⟨start, ← here⟩
  if isEscapable c then return .literal ⟨span, c, false⟩
  else
    match letterEscape? c, shorthand? c, assertion? c with
    | some char, _, _ => return .literal ⟨span, char, false⟩
    | _, some (negated, shorthand), _ => return .shorthand span negated shorthand
    | _, _, some assertion =>
      if c = 'b' ∧ (← peek) = some '\x7b' then
        match ← namedWordEdge? start with
        | some edge => return .assertion ⟨start, ← here⟩ (.word edge)
        | none => return .assertion span assertion
      else return .assertion span assertion
    | none, none, none => throw ⟨.unknownEscape, span⟩

/-- What a backslash and what follows it stand for. -/
def escape : Reader Atom := do
  let start ← here
  bump
  match ← peek with
  | none => fail .incompleteEscape start (← here)
  | some c =>
    if c.isDigit then fail .backreference start ((← here).behind c)
    else if c = 'x' ∨ c = 'u' ∨ c = 'U' then return .literal (← code start c)
    else if c = 'p' ∨ c = 'P' then property start (c == 'P')
    else
      bump
      simpleEscape start c

end DocMarkers.Pattern.Reader
