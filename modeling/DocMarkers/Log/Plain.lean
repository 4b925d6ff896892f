/-! # Log entries without control sequences

A text for a terminal may hold control sequences, which move the cursor or choose colours. A log
shows none of them. A sequence starts with the escape character; which characters belong to it, and
which one ends it, depends on the characters so far. Outside of sequences the control characters are
left out too, but for blanks.

A blank inside a sequence is shown, and so is the plain text behind it; the sequence goes on at the
next character that is not plain.
-/

namespace DocMarkers.Log

/-- The kinds of control sequences, and how far they are read. -/
inductive Sequence where
  /-- No sequence is open. -/
  | closed
  /-- Behind the escape character. -/
  | escape
  /-- Behind the escape character and a mark. -/
  | marked
  /-- In a sequence with parameters, which a letter ends. -/
  | parameters
  /-- At the start of a command for a device. -/
  | device
  /-- In the parameters of a command for a device. -/
  | deviceParameters
  /-- At a mark of a command for a device. -/
  | deviceMark
  /-- In data for a device, which a terminator ends. -/
  | data
  /-- In a command for the system, which a bell ends. -/
  | command
  deriving DecidableEq

namespace Sequence

/-- What ends data for a device: a byte that, in a text, is only found inside of characters. -/
def terminator : UInt8 := 0x9C

/-- How a sequence goes on with a character. -/
def next (sequence : Sequence) (c : Char) : Sequence :=
  if c == '\x18' || c == '\x1a' then closed
  else if c == '\x1b' then escape
  else
    let isMark := '\x20' ≤ c && c ≤ '\x2f'
    let isParameter := '\x30' ≤ c && c ≤ '\x3f'
    let isLetter := '\x40' ≤ c && c ≤ '\x7e'
    match sequence with
    | closed => closed
    | escape =>
      if isMark then marked
      else if c == '[' then parameters
      else if c == ']' then command
      else if c == 'P' then device
      else if c == 'X' || c == '^' || c == '_' then data
      else if isParameter || isLetter then closed
      else escape
    | marked => if isParameter || isLetter then closed else marked
    | parameters => if isLetter then closed else parameters
    | device =>
      if isMark then deviceMark
      else if isParameter then deviceParameters
      else if isLetter then data
      else device
    | deviceParameters =>
      if isMark then deviceMark
      else if isLetter || ('<' ≤ c && c ≤ '?') then data
      else deviceParameters
    | deviceMark => if isParameter || isLetter then data else deviceMark
    | data => if (String.singleton c).toUTF8.data.contains terminator then closed else data
    | command => if c == '\x07' then closed else command

end Sequence

/-- A blank that a log shows. -/
def isLogBlank (c : Char) : Bool :=
  c == '\t' || c == '\n' || c == '\x0c' || c == '\r'

/-- A character that a log shows outside of control sequences. -/
def isLogText (c : Char) : Bool :=
  isLogBlank c || ('\x20' ≤ c && c != '\x7f')

/-- Whether a character ends the reading of a sequence, at least for the plain text that starts with
the character. -/
def Sequence.isLeft (sequence : Sequence) (c : Char) : Bool :=
  match sequence with
  | .closed => isLogText c
  | .escape | .marked | .parameters => isLogBlank c
  | .device | .deviceParameters | .deviceMark | .data | .command => false

/-- The characters that a log shows of a text; `inText` says whether plain text is being read, and
`sequence` is the sequence that was read before it. -/
def plainFrom : (inText : Bool) → Sequence → List Char → List Char
  | _, _, [] => []
  | inText, sequence, c :: rest =>
    if (inText && isLogText c) || sequence.isLeft c then
      c :: plainFrom true (if '\x80' ≤ c then .closed else sequence) rest
    else plainFrom false (sequence.next c) rest

/-- The characters that a log shows of a text. -/
def plain (text : List Char) : List Char :=
  plainFrom false .closed text

end DocMarkers.Log
