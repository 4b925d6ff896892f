import DocMarkers.Pattern.Form
import DocMarkers.Unicode.CaseFolding

/-! # Sets of characters

A set is told by whether it holds a character. The sets with names hold ASCII characters only, or
the characters of all alphabets.
-/

namespace DocMarkers.Pattern

/-- A set of characters. -/
abbrev CharSet := Char → Bool

/-- The characters of a set of ASCII characters. -/
def AsciiSet.holds (set : AsciiSet) (c : Char) : Bool :=
  match set with
  | alnum => c.isAlphanum
  | alpha => c.isAlpha
  | ascii => c < '\x80'
  | blank => c == '\t' || c == ' '
  | cntrl => c < '\x20' || c == '\x7f'
  | digit => c.isDigit
  | graph => '!' ≤ c && c ≤ '~'
  | lower => c.isLower
  | print => ' ' ≤ c && c ≤ '~'
  | punct => '!' ≤ c && c ≤ '~' && !c.isAlphanum
  | space => c == ' ' || ('\t' ≤ c && c ≤ '\r')
  | upper => c.isUpper
  | word => c.isAlphanum || c == '_'
  | xdigit => c.isDigit || ('a' ≤ c && c ≤ 'f') || ('A' ≤ c && c ≤ 'F')

namespace CharSet

/-- The characters that words consist of: letters, marks, digits, what joins words, and the signs
that tell letters to join or not. -/
def wordCharacters : CharSet := fun c =>
  if c < '\x80' then AsciiSet.word.holds c
  else
    ((.decimalNumber :: .connectorPunctuation :: Unicode.Category.marks).contains
        (Unicode.Category.ofChar c)) ||
      Unicode.BinaryProperty.alphabetic.holds c || Unicode.BinaryProperty.joinControl.holds c

/-- The digits of all alphabets. -/
def digits : CharSet := fun c =>
  Unicode.Category.ofChar c = .decimalNumber

/-- A set and all characters that differ from its characters in case only. -/
def ignoringCase (unicode : Bool) (set : CharSet) : CharSet := fun c =>
  if unicode then (Unicode.caseVariants c).any set
  else set c || set c.toLower || set c.toUpper

/-- The characters that are not in a set. -/
def complement (set : CharSet) : CharSet := fun c => !set c

end CharSet

/-- A set with a name of one letter. -/
def Shorthand.set (shorthand : Shorthand) (unicode : Bool) : CharSet :=
  match shorthand, unicode with
  | digit, true => CharSet.digits
  | space, true => Text.isBlank
  | word, true => CharSet.wordCharacters
  | digit, false => AsciiSet.digit.holds
  | space, false => AsciiSet.space.holds
  | word, false => AsciiSet.word.holds

end DocMarkers.Pattern
