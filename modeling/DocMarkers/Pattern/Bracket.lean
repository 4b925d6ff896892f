import DocMarkers.Pattern.Escape

/-! # Sets in brackets

A set lists characters, ranges and other sets. Between lists stand operations, which are applied
from left to right.
-/

namespace DocMarkers.Pattern

/-- A list of a set that is being read. -/
structure OpenSet where
  /-- The opening of the set, which a fault shows when the end of the set is missing. -/
  opening : Span
  negated : Bool
  /-- Where the list begins. -/
  start : Place
  /-- The items of the list so far, the last one first. -/
  items : List SetForm
  /-- The lists before this one, and the operation that joins them to this one. -/
  before : Option (SetForm × SetOperation)

namespace OpenSet

/-- The set with one more item. -/
def add (set : OpenSet) (item : SetForm) : OpenSet :=
  { set with items := item :: set.items }

/-- The items of the list as one. -/
def list (set : OpenSet) : SetForm :=
  match set.items.reverse with
  | [] => .union ⟨set.start, set.start⟩ []
  | [item] => item
  | first :: more =>
    .union ⟨first.span.first, ((more.getLast?).getD first).span.behind⟩ (first :: more)

/-- The lists up to this one as one. -/
def joined (set : OpenSet) : SetForm :=
  match set.before with
  | none => set.list
  | some (left, operation) =>
    .combined ⟨left.span.first, set.list.span.behind⟩ operation left set.list

/-- The set with a new list behind an operation. -/
def combine (set : OpenSet) (operation : SetOperation) (start : Place) : OpenSet :=
  { set with items := [], start, before := some (set.joined, operation) }

end OpenSet

/-- The set of ASCII characters with a name. -/
def AsciiSet.ofName? (name : List Char) : Option AsciiSet :=
  match String.ofList name with
  | "alnum" => some alnum
  | "alpha" => some alpha
  | "ascii" => some ascii
  | "blank" => some blank
  | "cntrl" => some cntrl
  | "digit" => some digit
  | "graph" => some graph
  | "lower" => some lower
  | "print" => some print
  | "punct" => some punct
  | "space" => some space
  | "upper" => some upper
  | "word" => some word
  | "xdigit" => some xdigit
  | _ => none

namespace Reader

/-- A set of ASCII characters, named between colons in brackets. Anything else is left alone. -/
def asciiSet? : Reader (Option SetForm) := do
  let before ← get
  let named : Option (Bool × List Char × List Char) :=
    match before.rest with
    | '[' :: ':' :: '^' :: rest => (Text.cutFirst? ':' rest).map (true, ·)
    | '[' :: ':' :: rest => (Text.cutFirst? ':' rest).map (false, ·)
    | _ => none
  match named with
  | some (negated, name, ']' :: _) =>
    match AsciiSet.ofName? name with
    | some set =>
      for _ in List.range (name.length + if negated then 5 else 4) do bump
      return some (.ascii ⟨before.place, ← here⟩ negated set)
    | none => return none
  | _ => return none

/-- The hyphens at the start of a set, which stand for themselves; `start` is the place of its
bracket. -/
def leadingHyphens (start : Place) : (most : Nat) → OpenSet → Reader OpenSet
  | 0, set => return set
  | most + 1, set => do
    if (← peek) = some '-' then
      let place ← here
      bumpOver
      if (← peek).isNone then fail .unclosedSet start start
      else
        leadingHyphens start most (set.add (.literal ⟨⟨place, place.behind '-'⟩, '-', false⟩))
    else return set

/-- The opening of a set. A closing bracket that comes first stands for itself. -/
def opening : Reader OpenSet := do
  let start ← here
  let unclosed {α : Type} : Reader α := do fail .unclosedSet start (← here)
  bumpOver
  let negated := (← peek) == some '^'
  if negated then bumpOver
  if (← peek).isNone then unclosed
  let place ← here
  let set ← leadingHyphens start (← get).rest.length ⟨⟨start, place⟩, negated, place, [], none⟩
  if set.items.isEmpty ∧ (← peek) = some ']' then
    let place ← here
    bumpOver
    if (← peek).isNone then unclosed
    let set := set.add (.literal ⟨⟨place, place.behind ']'⟩, ']', false⟩)
    return { set with opening := ⟨start, ← here⟩ }
  else return { set with opening := ⟨start, ← here⟩ }

/-- One end of a range, or an item of its own. -/
def setAtom (c : Char) : Reader Atom := do
  if c = '\\' then escape
  else
    let place ← here
    bump
    return .literal ⟨⟨place, place.behind c⟩, c, false⟩

/-- An atom as an item of a set. -/
def itemOfAtom : Atom → Reader SetForm
  | .literal literal => return .literal literal
  | .property span negated query => return .property span negated query
  | .shorthand span negated shorthand => return .shorthand span negated shorthand
  | .dot span | .assertion span _ => throw ⟨.assertionInSet, span⟩

/-- An atom as one end of a range. -/
def endOfRange : Atom → Reader Literal
  | .literal literal => return literal
  | other => throw ⟨.rangeOfSets, other.span⟩

/-- A character, a range or a set with a name, at its first character. -/
def setItem (set : OpenSet) (c : Char) : Reader SetForm := do
  let first ← setAtom c
  skipBlanks
  let second := (← get).second?
  match ← peek with
  | none => throw ⟨.unclosedSet, set.opening⟩
  | some next =>
    if next != '-' || second == some ']' || second == some '-' then itemOfAtom first
    else
      bumpOver
      match ← peek with
      | none => throw ⟨.unclosedSet, set.opening⟩
      | some c =>
        let last ← setAtom c
        let span : Span := ⟨first.span.first, last.span.behind⟩
        let low ← endOfRange first
        let high ← endOfRange last
        if low.char ≤ high.char then return .range span low high
        else throw ⟨.reversedRange, span⟩

/-- The operation that two equal characters stand for. -/
def operation? : List Char → Option SetOperation
  | '&' :: '&' :: _ => some .intersection
  | '-' :: '-' :: _ => some .difference
  | '~' :: '~' :: _ => some .symmetricDifference
  | _ => none

/-- The rest of a set, behind its opening and up to its closing bracket. Every step goes past a
character, so as much fuel as there are characters is enough. -/
def restOfSet : (fuel : Nat) → OpenSet → Reader SetForm
  | 0, set => throw ⟨.unclosedSet, set.opening⟩
  | fuel + 1, set => do
    skipBlanks
    match ← peek with
    | none => throw ⟨.unclosedSet, set.opening⟩
    | some ']' =>
      bump
      return .bracketed ⟨set.opening.first, ← here⟩ set.negated set.joined
    | some '[' =>
      match ← asciiSet? with
      | some item => restOfSet fuel (set.add item)
      | none => restOfSet fuel (set.add (← restOfSet fuel (← opening)))
    | some c =>
      match operation? (← get).rest with
      | some operation =>
        bump
        bump
        restOfSet fuel (set.combine operation (← here))
      | none => restOfSet fuel (set.add (← setItem set c))

/-- A set, at its opening bracket. -/
def set : Reader SetForm := do
  restOfSet ((← get).rest.length + 1) (← opening)

end Reader

end DocMarkers.Pattern
