import DocMarkers.Text.Hexadecimal
import DocMarkers.Text.Split

/-! # The smallest parts of a TOML document

Blanks, line ends, comments, strings and keys. Each reader gets the characters that are left, and
gives back what it read and what is left after it, or nothing if the document is not TOML.
-/

namespace DocMarkers.Toml

/-- A blank inside a line. -/
def isLineBlank (c : Char) : Bool :=
  c == ' ' || c == '\t'

/-- A character that may stand in a comment and, unless it is special there, in a string: all but
the control characters, of which the tab is allowed. -/
def isPlain (c : Char) : Bool :=
  c == '\t' || (0x20 ≤ c.toNat && c.toNat != 0x7F)

/-- The characters behind the blanks of a line. -/
def skipLineBlanks (text : List Char) : List Char :=
  text.dropWhile isLineBlank

/-- The characters behind a line end. -/
def newline? : List Char → Option (List Char)
  | '\n' :: rest => some rest
  | '\r' :: '\n' :: rest => some rest
  | _ => none

/-- The characters behind the blanks, the comment and the line end that close a line. The last line
needs no line end. -/
def lineEnd? (text : List Char) : Option (List Char) :=
  match skipLineBlanks text with
  | [] => some []
  | '#' :: comment =>
    match comment.dropWhile isPlain with
    | [] => some []
    | rest => newline? rest
  | rest => newline? rest

/-- The characters behind blanks, line ends and whole comments, as they may stand between the items
of an array; `comment` tells whether a comment is open. -/
def skipBetween? : (comment : Bool) → List Char → Option (List Char)
  | _, [] => some []
  | _, '\n' :: rest => skipBetween? false rest
  | _, '\r' :: '\n' :: rest => skipBetween? false rest
  | true, c :: rest => if isPlain c then skipBetween? true rest else none
  | false, '#' :: rest => skipBetween? true rest
  | false, c :: rest => if isLineBlank c then skipBetween? false rest else some (c :: rest)

/-- The character that a backslash and one letter stand for. -/
def escaped? (letter : Char) : Option Char :=
  match letter with
  | 'b' => some '\x08'
  | 't' => some '\t'
  | 'n' => some '\n'
  | 'f' => some '\x0c'
  | 'r' => some '\r'
  | '"' => some '"'
  | '\\' => some '\\'
  | _ => none

/-- Puts a character in front of what a reader gives. -/
def before (c : Char) (rest : Option (List Char × List Char)) : Option (List Char × List Char) :=
  rest.map fun (text, left) => (c :: text, left)

/-- The body of a string in double quotes, behind the opening quote. -/
def quotedBody : List Char → Option (List Char × List Char)
  | [] => none
  | '"' :: rest => some ([], rest)
  | '\\' :: 'u' :: a :: b :: c :: d :: rest => do
    before (← Text.codePoint? [a, b, c, d]) (quotedBody rest)
  | '\\' :: 'U' :: a :: b :: c :: d :: e :: f :: g :: h :: rest => do
    before (← Text.codePoint? [a, b, c, d, e, f, g, h]) (quotedBody rest)
  | '\\' :: letter :: rest => do
    before (← escaped? letter) (quotedBody rest)
  | c :: rest => if isPlain c && c != '\\' then before c (quotedBody rest) else none

/-- The body of a string in single quotes, behind the opening quote. Nothing is escaped in it. -/
def literalBody : List Char → Option (List Char × List Char)
  | [] => none
  | '\'' :: rest => some ([], rest)
  | c :: rest => if isPlain c then before c (literalBody rest) else none

/-- How much of a line break that a backslash takes out of a string has been read. -/
inductive Fold where
  /-- None is being read. -/
  | none
  /-- The backslash and blanks have been read, and the line has to end. -/
  | open
  /-- The line has ended, and all blanks and line ends that follow are taken out too. -/
  | ended
  deriving DecidableEq

/-- The body of a string in three double quotes, behind the opening quotes. Up to two quotes may
stand before the closing ones. -/
def longQuotedBody : Fold → List Char → Option (List Char × List Char)
  | _, [] => none
  | .open, '\n' :: rest => longQuotedBody .ended rest
  | .open, '\r' :: '\n' :: rest => longQuotedBody .ended rest
  | .open, c :: rest => if isLineBlank c then longQuotedBody .open rest else none
  | .ended, '\n' :: rest => longQuotedBody .ended rest
  | .ended, '\r' :: '\n' :: rest => longQuotedBody .ended rest
  | .ended, ' ' :: rest => longQuotedBody .ended rest
  | .ended, '\t' :: rest => longQuotedBody .ended rest
  | _, '"' :: '"' :: '"' :: '"' :: '"' :: rest => some (['"', '"'], rest)
  | _, '"' :: '"' :: '"' :: '"' :: rest => some (['"'], rest)
  | _, '"' :: '"' :: '"' :: rest => some ([], rest)
  | _, '\n' :: rest => before '\n' (longQuotedBody .none rest)
  | _, '\r' :: '\n' :: rest => before '\n' (longQuotedBody .none rest)
  | _, '\\' :: '\n' :: rest => longQuotedBody .ended rest
  | _, '\\' :: '\r' :: '\n' :: rest => longQuotedBody .ended rest
  | _, '\\' :: ' ' :: rest => longQuotedBody .open rest
  | _, '\\' :: '\t' :: rest => longQuotedBody .open rest
  | _, '\\' :: 'u' :: a :: b :: c :: d :: rest => do
    before (← Text.codePoint? [a, b, c, d]) (longQuotedBody .none rest)
  | _, '\\' :: 'U' :: a :: b :: c :: d :: e :: f :: g :: h :: rest => do
    before (← Text.codePoint? [a, b, c, d, e, f, g, h]) (longQuotedBody .none rest)
  | _, '\\' :: letter :: rest => do
    before (← escaped? letter) (longQuotedBody .none rest)
  | _, c :: rest => if isPlain c && c != '\\' then before c (longQuotedBody .none rest) else none

/-- The body of a string in three single quotes, behind the opening quotes. -/
def longLiteralBody : List Char → Option (List Char × List Char)
  | [] => none
  | '\'' :: '\'' :: '\'' :: '\'' :: '\'' :: rest => some (['\'', '\''], rest)
  | '\'' :: '\'' :: '\'' :: '\'' :: rest => some (['\''], rest)
  | '\'' :: '\'' :: '\'' :: rest => some ([], rest)
  | '\n' :: rest => before '\n' (longLiteralBody rest)
  | '\r' :: '\n' :: rest => before '\n' (longLiteralBody rest)
  | c :: rest => if isPlain c then before c (longLiteralBody rest) else none

/-- A line end right behind the opening of a long string does not count. -/
def skipFirstLineEnd (text : List Char) : List Char :=
  (newline? text).getD text

/-- A string of any of the four kinds. -/
def string? : List Char → Option (String × List Char)
  | '"' :: '"' :: '"' :: rest =>
    (longQuotedBody .none (skipFirstLineEnd rest)).map (Prod.map String.ofList id)
  | '\'' :: '\'' :: '\'' :: rest =>
    (longLiteralBody (skipFirstLineEnd rest)).map (Prod.map String.ofList id)
  | '"' :: rest => (quotedBody rest).map (Prod.map String.ofList id)
  | '\'' :: rest => (literalBody rest).map (Prod.map String.ofList id)
  | _ => none

/-- A character of a key without quotes. -/
def isKeyChar (c : Char) : Bool :=
  c.isAlphanum || c == '-' || c == '_'

/-- One part of a key, with the blanks around it. -/
def keyPart? (text : List Char) : Option (String × List Char) :=
  let read : Option (String × List Char) :=
    match skipLineBlanks text with
    | '"' :: rest => (quotedBody rest).map (Prod.map String.ofList id)
    | '\'' :: rest => (literalBody rest).map (Prod.map String.ofList id)
    | rest =>
      let bare := rest.takeWhile isKeyChar
      if bare.isEmpty then none else some (String.ofList bare, rest.dropWhile isKeyChar)
  read.map (Prod.map id skipLineBlanks)

/-- The parts of a key with dots between them; at most `limit` parts are read. -/
def keyParts? : (limit : Nat) → List Char → Option (List String × List Char)
  | 0, _ => none
  | limit + 1, text => do
    let (part, rest) ← keyPart? text
    match rest with
    | '.' :: more =>
      let (parts, left) ← keyParts? limit more
      return (part :: parts, left)
    | left => return ([part], left)

/-- The deepest nesting of keys and of values that is read. -/
def depthLimit : Nat := 79

/-- A key, which may have dots. -/
def key? (text : List Char) : Option (List String × List Char) :=
  keyParts? depthLimit text

end DocMarkers.Toml
