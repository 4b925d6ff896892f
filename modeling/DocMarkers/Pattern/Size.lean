import DocMarkers.Pattern.Form

/-! # The size of a pattern

A pattern that is repeated many times is unfolded, so that a short pattern may need much room. The
size estimates this room in bytes. Patterns beyond a limit are refused.
-/

namespace DocMarkers.Pattern

/-- The largest size of a pattern. -/
def sizeLimit : Nat := 10485760

/-- The room for one step through a text. -/
def stepSize : Nat := 32

/-- The room for the characters of a set with a name. -/
def Shorthand.size : Shorthand → Nat
  | digit => 5000
  | space => 700
  | word => 65000

mutual

/-- The room for a set. -/
def SetForm.size : SetForm → Nat
  | .literal _ | .range .. => stepSize
  | .ascii _ negated _ => if negated then 600 else stepSize
  | .property .. => Shorthand.word.size
  | .shorthand _ _ named => named.size
  | .bracketed _ negated inner => inner.size + if negated then 600 else 0
  | .union _ items => SetForm.listSize items
  | .combined _ _ left right => left.size + right.size

/-- The room for some sets. -/
def SetForm.listSize : List SetForm → Nat
  | [] => 0
  | item :: items => item.size + SetForm.listSize items

end

/-- The room for an atom. -/
def Atom.size : Atom → Nat
  | .literal written => stepSize * written.char.utf8Size
  | .dot _ => 600
  | .assertion .. => stepSize
  | .property .. => Shorthand.word.size
  | .shorthand _ _ named => named.size

mutual

/-- Whether a form can only match nothing. -/
def Form.isIdle : Form → Bool
  | .empty | .flags _ => true
  | .atom (.assertion ..) => true
  | .atom _ | .bracketed .. => false
  | .repetition _ count body => count.most == some 0 || body.isIdle
  | .group _ _ _ body => body.isIdle
  | .row _ parts | .choice _ parts => Form.areIdle parts

/-- Whether forms can only match nothing. -/
def Form.areIdle : List Form → Bool
  | [] => true
  | part :: parts => part.isIdle && Form.areIdle parts

end

/-- How often a repetition is unfolded. What matches nothing need not be repeated. -/
def Count.copies (count : Count) (isIdle : Bool) : Nat :=
  let copies := count.most.getD (max 1 count.least)
  if isIdle then min 1 copies else copies

mutual

/-- The room for a form. -/
def Form.size : Form → Nat
  | .empty | .flags _ => 0
  | .atom written => written.size
  | .bracketed _ negated inner => inner.size + if negated then 600 else 0
  | .repetition _ count body =>
    count.copies body.isIdle * (body.size + if count.most = some count.least then 0 else stepSize)
  | .group _ captures _ body => body.size + if captures then 2 * stepSize else 0
  | .row _ parts | .choice _ parts => Form.listSize parts

/-- The room for some forms. -/
def Form.listSize : List Form → Nat
  | [] => 0
  | part :: parts => part.size + Form.listSize parts

end

end DocMarkers.Pattern
