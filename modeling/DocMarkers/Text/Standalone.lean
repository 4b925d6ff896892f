import DocMarkers.Unicode.BinaryProperty

/-! # Characters that stand alone

A character stands alone when it has a shape of its own. Those that do not are the control and
format characters, the separators other than the space, the marks that join the character before
them, those that are to be ignored, and the codes that are private or mean nothing. Between quotes
they are shown by their codes.
-/

namespace DocMarkers.Text

/-- Whether a character of ASCII has a shape of its own. -/
def isPrintableAscii (c : Char) : Bool :=
  0x20 ≤ c.toNat && c.toNat < 0x7F

/-- Whether a character has a shape of its own. -/
def standsAlone (c : Char) : Bool :=
  if c.toNat < 0x80 then isPrintableAscii c
  else
    !(Unicode.Category.separators ++ Unicode.Category.others).contains (.ofChar c) &&
      !Unicode.BinaryProperty.graphemeExtend.holds c &&
      !Unicode.BinaryProperty.defaultIgnorableCodePoint.holds c

end DocMarkers.Text
