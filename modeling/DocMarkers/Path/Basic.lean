import DocMarkers.Text.Bytes
import DocMarkers.Text.Split

/-! # Paths

A path is kept as it was typed, and it is never normalised. It is a row of bytes, most often those
of a text, and is shown as a text (`Path.text`) also where it is none. Two paths name the same
place, and are ordered, by their components: repeated slashes, a slash at the end and a `.` after
the start do not count, so `a/b.md`, `a//b.md` and `a/./b.md` are one path in three spellings.

The operations work on the segments between the slashes, and give back every part of the text that
they keep as it was typed.
-/

namespace DocMarkers

/-- A path as it was typed. -/
structure Path where
  bytes : Bytes
  deriving DecidableEq, Inhabited

namespace Path

/-- The byte between two names. -/
def slash : UInt8 := 0x2F

/-- The byte before an extension, and the name of the current directory. -/
def dot : UInt8 := 0x2E

/-- A path as it is shown. -/
def text (path : Path) : String :=
  Text.shown path.bytes

/-- What one step of a path means. -/
inductive Component where
  /-- The root of the file system: a slash at the start. -/
  | root
  /-- The current directory: a `.` at the start. -/
  | here
  /-- The directory above: `..`. -/
  | up
  /-- An entry of the directory reached so far. -/
  | name (bytes : Bytes)
  deriving DecidableEq

namespace Component

/-- The place of the kind of a component in the order of components. -/
def rank : Component → Nat
  | root => 0
  | here => 1
  | up => 2
  | name _ => 3

/-- The name of an entry; the other components have none. -/
def label : Component → Bytes
  | name bytes => bytes
  | _ => []

/-- Components are ordered by kind, and names by their bytes. -/
instance : LT Component where
  lt left right := left.rank < right.rank ∨ (left.rank = right.rank ∧ left.label < right.label)

instance : DecidableLT Component := fun left right =>
  inferInstanceAs (Decidable (left.rank < right.rank ∨
    (left.rank = right.rank ∧ left.label < right.label)))

theorem eq_of_rank_of_label {left right : Component} (ranks : left.rank = right.rank)
    (labels : left.label = right.label) : left = right := by
  cases left <;> cases right <;> simp_all [rank, label]

instance : Std.Irrefl (α := Component) (· < ·) where
  irrefl component less := by
    rcases less with less | ⟨-, less⟩
    · exact Nat.lt_irrefl _ less
    · exact List.lt_irrefl _ less

instance : Trans (α := Component) (· < ·) (· < ·) (· < ·) where
  trans := by
    rintro a b c (first | ⟨first, firstLabel⟩) (second | ⟨second, secondLabel⟩)
    · exact .inl (Nat.lt_trans first second)
    · exact .inl (second ▸ first)
    · exact .inl (first ▸ second)
    · exact .inr ⟨first.trans second, List.lt_trans firstLabel secondLabel⟩

/-- The component that a segment stands for, unless it is at the start: an empty segment and a `.`
stand for none. -/
def ofSegment? (segment : Bytes) : Option Component :=
  if segment = [] ∨ segment = [dot] then none
  else if segment = [dot, dot] then some up
  else some (name segment)

end Component

/-- A path given as characters. -/
def ofChars (text : List Char) : Path :=
  ⟨Text.encode text⟩

/-- What stands between the slashes. -/
def segments (path : Path) : List Bytes :=
  Text.splitOn slash path.bytes

/-- Where a path starts: at the root, at a written current directory, or at its first name. -/
inductive Anchor where
  | root
  | here
  | none
  deriving DecidableEq

namespace Anchor

/-- The bytes of an anchor. -/
def bytes : Anchor → Bytes
  | root => [slash]
  | here => [dot]
  | none => []

/-- The component of an anchor, if it is one. -/
def component? : Anchor → Option Component
  | root => some .root
  | here => some .here
  | none => Option.none

end Anchor

/-- A path cut into its anchor and the segments behind it. For a path that starts with `.`, the
first segment behind the anchor is the empty one before the next slash. -/
def anchored (path : Path) : Anchor × List Bytes :=
  match path.segments with
  | [] => (.none, [])
  | first :: rest =>
    if first = [] ∧ rest ≠ [] then (.root, rest)
    else if first = [dot] then (.here, if rest = [] then [] else [] :: rest)
    else (.none, first :: rest)

/-- The steps of a path, in order. -/
def components (path : Path) : List Component :=
  let (anchor, body) := path.anchored
  anchor.component?.toList ++ body.filterMap Component.ofSegment?

/-- Paths are ordered by their components, each compared with the one at the same place. -/
instance : LT Path where
  lt left right := left.components < right.components

instance : DecidableLT Path := fun left right =>
  inferInstanceAs (Decidable (left.components < right.components))

theorem lt_trans {first second third : Path} (left : first < second) (right : second < third) :
    first < third :=
  List.lt_trans (α := Component) left right

theorem lt_irrefl (path : Path) : ¬ path < path :=
  List.lt_irrefl (α := Component) path.components

/-- Two spellings of one path. -/
def Same (left right : Path) : Prop :=
  left.components = right.components

instance (left right : Path) : Decidable (left.Same right) :=
  inferInstanceAs (Decidable (left.components = right.components))

/-- A path that starts at the root. -/
def isAbsolute (path : Path) : Bool :=
  path.bytes.head? == some slash

/-- The path `tail` taken from the directory `base`. An absolute `tail` replaces the base; otherwise
one slash is put between the two, unless the base is empty or ends with one. -/
def join (base tail : Path) : Path :=
  if tail.isAbsolute then tail
  else if base.bytes.isEmpty || base.bytes.getLast? == some slash then ⟨base.bytes ++ tail.bytes⟩
  else ⟨base.bytes ++ [slash] ++ tail.bytes⟩

/-- A segment that is not a step: an empty one or a `.`. -/
def isIdle (segment : Bytes) : Bool :=
  segment == [] || segment == [dot]

/-- Segments without the idle ones at the end. -/
def dropIdleEnd (body : List Bytes) : List Bytes :=
  (body.reverse.dropWhile isIdle).reverse

/-- The path with a given anchor and segments. -/
def build (anchor : Anchor) (body : List Bytes) : Path :=
  ⟨anchor.bytes ++ Text.joinWith [slash] body⟩

/-- The directory that holds the last step; the root and the empty path have none. -/
def parent? (path : Path) : Option Path :=
  let (anchor, body) := path.anchored
  match dropIdleEnd body, anchor with
  | [], .here => some ⟨[]⟩
  | [], _ => none
  | steps, _ => some (build anchor (dropIdleEnd steps.dropLast))

/-- The directories above the last of some segments, which are given from the last to the first. -/
def directoriesAbove (anchor : Anchor) : (reversed : List Bytes) → List Path
  | [] => if anchor = .here then [⟨[]⟩] else []
  | segment :: rest =>
    if isIdle segment then directoriesAbove anchor rest
    else build anchor (rest.dropWhile isIdle).reverse :: directoriesAbove anchor rest

/-- The directories above a path, from the nearest one up. -/
def ancestors (path : Path) : List Path :=
  let (anchor, body) := path.anchored
  directoriesAbove anchor body.reverse

/-- The name of the entry that the path ends in, if it ends in one. -/
def fileName? (path : Path) : Option Bytes :=
  match path.components.getLast? with
  | some (.name bytes) => some bytes
  | _ => none

/-- What follows the last dot of a file name. A name that only starts with a dot has no extension,
and one that ends with a dot has the empty extension. -/
def extension? (path : Path) : Option Bytes := do
  let name ← path.fileName?
  let (reversedExtension, reversedStem) ← Text.cutFirst? dot name.reverse
  if reversedStem.isEmpty then none else some reversedExtension.reverse

/-- The segments left after a number of steps, from the next step on. -/
def dropSteps : Nat → List Bytes → List Bytes
  | _, [] => []
  | count, segment :: rest =>
    if isIdle segment then dropSteps count rest
    else
      match count with
      | 0 => segment :: rest
      | count + 1 => dropSteps count rest

/-- What follows `base` in a path whose first components are those of `base`. The empty base leaves
the whole path, less what is idle at its end. -/
def stripPrefix? (base path : Path) : Option Path :=
  if base.components.isPrefixOf path.components then
    let (anchor, body) := path.anchored
    match base.components.length with
    | 0 => some (build anchor (dropIdleEnd body))
    | steps + 1 =>
      let left := if anchor.component?.isSome then steps else steps + 1
      some (build .none (dropIdleEnd (dropSteps left body)))
  else none

/-- A path as it is shown below a root: what follows the root, or the whole path when it lies
elsewhere. -/
def relativeTo (root path : Path) : String :=
  ((stripPrefix? root path).getD path).text

end Path

end DocMarkers
