import DocMarkers.Path.Basic
import DocMarkers.Tree.Basic

/-! # Joined paths

What is joined to a directory follows the segments of the directory, without the empty one behind a
slash at its end (`Path.segments_join`). So joining a directory and the name of an entry adds one
component and changes none before it, however the directory is spelled
(`Path.components_join_name`): `a` and `a/` have the same entries.
-/

namespace DocMarkers

namespace Path

/-- The components of segments, unless they are those of the empty text. -/
def stem : List Bytes → List Component
  | [] => []
  | first :: rest =>
    (if first = [] then some .root else if first = [dot] then some .here
      else Component.ofSegment? first).toList ++ rest.filterMap Component.ofSegment?

theorem segments_ne_nil (path : Path) : path.segments ≠ [] :=
  Text.splitWhere_ne_nil _ _

/-- More segments add their own components. -/
theorem stem_append {front more : List Bytes} (nonempty : front ≠ []) :
    stem (front ++ more) = stem front ++ more.filterMap Component.ofSegment? := by
  cases front with
  | nil => exact absurd rfl nonempty
  | cons first rest =>
      simp only [stem, List.cons_append, List.filterMap_append, List.append_assoc]

theorem stem_concat {front : List Bytes} {last : Bytes} (nonempty : front ≠ []) :
    stem (front ++ [last]) = stem front ++ (Component.ofSegment? last).toList := by
  rw [stem_append nonempty]
  cases own : Component.ofSegment? last <;> simp [own]

theorem anchored_of_plain {path : Path} {first : Bytes} {rest : List Bytes}
    (segments : path.segments = first :: rest) (filled : first ≠ []) (named : first ≠ [dot]) :
    path.anchored = (.none, first :: rest) := by
  unfold anchored
  rw [segments]
  split <;> simp_all

theorem components_eq_stem {path : Path} (nonempty : path.segments ≠ [[]]) :
    path.components = stem path.segments := by
  cases segments : path.segments with
  | nil => exact absurd segments path.segments_ne_nil
  | cons first rest =>
      by_cases root : first = []
      · subst root
        cases rest with
        | nil => exact absurd segments nonempty
        | cons next rest =>
            unfold components anchored
            rw [segments]
            rfl
      · by_cases here : first = [dot]
        · subst here
          unfold components anchored
          rw [segments]
          cases rest <;> rfl
        · unfold components
          rw [anchored_of_plain segments root here]
          simp only [stem, root, here, if_false, List.filterMap_cons]
          cases Component.ofSegment? first <;> rfl

/-- The name of an entry is a component. -/
theorem ofSegment?_name (name : Name) :
    Component.ofSegment? name.bytes = some (.name name.bytes) := by
  obtain ⟨filled, stays, climbs, -⟩ := name.proper
  unfold Component.ofSegment?
  rw [if_neg (not_or.mpr ⟨filled, stays⟩), if_neg climbs]

theorem isAbsolute_name (name : Name) : (Path.mk name.bytes).isAbsolute = false := by
  have noSlash := name.proper.2.2.2
  unfold isAbsolute
  cases chars : name.bytes with
  | nil => rfl
  | cons first rest =>
      rw [chars] at noSlash
      have different : first ≠ slash := fun same => noSlash (same ▸ List.mem_cons_self)
      simpa using different

/-- What the components are when the last segment is the name of an entry. -/
theorem components_of_segments_concat_name {path : Path} {front : List Bytes} {name : Name}
    (segments : path.segments = front ++ [name.bytes]) :
    path.components = stem front ++ [.name name.bytes] := by
  have filled : name.bytes ≠ [] := name.proper.1
  have nonempty : path.segments ≠ [[]] := by
    rw [segments]
    intro same
    have last := congrArg List.getLast? same
    simp [filled] at last
  rw [components_eq_stem nonempty, segments]
  cases front with
  | nil => simp [stem, filled, name.proper.2.1, ofSegment?_name]
  | cons first rest =>
      rw [stem_concat (List.cons_ne_nil first rest), ofSegment?_name]
      rfl

/-- A slash at the end of a path does not count. -/
theorem components_of_segments_concat_nil {path : Path} {front : List Bytes}
    (segments : path.segments = front ++ [[]]) (nonempty : front ≠ []) :
    path.components = stem front := by
  have several : path.segments ≠ [[]] := by
    rw [segments]
    intro same
    exact nonempty (List.append_left_eq_self.mp same)
  rw [components_eq_stem several, segments, stem_concat nonempty]
  exact List.append_nil _

/-- Paths with the same segments are spelled alike. -/
theorem eq_of_segments {left right : Path} (same : left.segments = right.segments) :
    left = right := by
  have leftBytes := Text.joinWith_splitOn slash left.bytes
  have rightBytes := Text.joinWith_splitOn slash right.bytes
  have spelled : left.bytes = right.bytes := by
    rw [← leftBytes, ← rightBytes]
    exact congrArg (Text.joinWith [slash]) same
  cases left
  cases right
  exact congrArg Path.mk spelled

/-- The segments that a directory puts before those of its entries. -/
def base (directory : Path) : List Bytes :=
  if directory.bytes = [] then []
  else if directory.bytes.getLast? = some slash then directory.segments.dropLast
  else directory.segments

section Join

variable {directory tail : Path} {name : Name} {front : Bytes}

theorem splitOn_name (name : Name) : Text.splitOn slash name.bytes = [name.bytes] :=
  Text.splitOn_of_not_mem name.proper.2.2.2

theorem segments_ne_of_bytes_ne (filled : directory.bytes ≠ []) : directory.segments ≠ [[]] := by
  intro single
  have chars := Text.joinWith_splitOn slash directory.bytes
  have empty : directory.bytes = [] := by
    rw [← chars]
    exact congrArg (Text.joinWith [slash]) single
  exact filled empty

theorem segments_of_closed (closed : directory.bytes = front ++ [slash]) :
    directory.segments = Text.splitOn slash front ++ [[]] := by
  unfold segments
  rw [closed]
  exact Text.splitOn_append_cons

theorem base_of_closed (closed : directory.bytes = front ++ [slash]) :
    directory.base = Text.splitOn slash front := by
  have filled : directory.bytes ≠ [] := by
    intro empty
    rw [empty] at closed
    simp at closed
  unfold base
  rw [if_neg filled, if_pos (by simp [closed]), segments_of_closed closed]
  exact List.dropLast_concat

/-- What is joined to a directory follows its segments. -/
theorem segments_join (relative : tail.isAbsolute = false) :
    (directory.join tail).segments = directory.base ++ tail.segments := by
  unfold join
  rw [relative, if_neg Bool.false_ne_true]
  by_cases empty : directory.bytes = []
  · unfold base
    rw [if_pos (by simp [empty]), if_pos empty, empty, List.nil_append]
    rfl
  · by_cases ends : directory.bytes.getLast? = some slash
    · obtain ⟨front, closed⟩ := List.getLast?_eq_some_iff.mp ends
      rw [if_pos (by simp [ends]), base_of_closed closed]
      unfold segments
      rw [closed, List.append_assoc, List.singleton_append, Text.splitOn_append_cons]
    · unfold base
      rw [if_neg (by simp [empty, ends]), if_neg empty, if_neg ends]
      unfold segments
      rw [List.append_assoc, List.singleton_append, Text.splitOn_append_cons]

/-- What is joined to a directory is known from the path. -/
theorem join_injective {other : Path} (relative : tail.isAbsolute = false)
    (otherRelative : other.isAbsolute = false) (same : directory.join tail = directory.join other) :
    tail = other := by
  have segments := congrArg Path.segments same
  rw [segments_join relative, segments_join otherRelative] at segments
  exact eq_of_segments (List.append_cancel_left segments)

theorem segments_join_name (directory : Path) (name : Name) :
    (directory.join ⟨name.bytes⟩).segments = directory.base ++ [name.bytes] := by
  rw [segments_join (isAbsolute_name name)]
  exact congrArg (_ ++ ·) (splitOn_name name)

/-- The components of a directory are those of its base. -/
theorem stem_base (directory : Path) : stem directory.base = directory.components := by
  by_cases empty : directory.bytes = []
  · unfold base components anchored segments
    rw [if_pos empty, empty]
    rfl
  · by_cases ends : directory.bytes.getLast? = some slash
    · obtain ⟨front, closed⟩ := List.getLast?_eq_some_iff.mp ends
      have nonempty : Text.splitOn slash front ≠ [] := Text.splitWhere_ne_nil _ _
      rw [base_of_closed closed,
        components_of_segments_concat_nil (segments_of_closed closed) nonempty]
    · unfold base
      rw [if_neg empty, if_neg ends, components_eq_stem (segments_ne_of_bytes_ne empty)]

/-- Joining a directory and the name of an entry adds that name to the components. -/
theorem components_join_name (directory : Path) (name : Name) :
    (directory.join ⟨name.bytes⟩).components = directory.components ++ [.name name.bytes] := by
  rw [components_of_segments_concat_name (segments_join_name directory name), stem_base]

/-- What is joined to a directory lies below it, unless it is absolute. -/
theorem components_prefix_join (relative : tail.isAbsolute = false) :
    directory.components <+: (directory.join tail).components := by
  have joined : (directory.join tail).segments = directory.base ++ tail.segments :=
    segments_join relative
  rw [← stem_base]
  cases base : directory.base with
  | nil => exact List.nil_prefix
  | cons first rest =>
      rw [base] at joined
      have several : (directory.join tail).segments ≠ [[]] := by
        intro single
        have lengths := congrArg List.length (joined.symm.trans single)
        have filled := List.length_pos_iff.mpr tail.segments_ne_nil
        simp only [List.length_append, List.length_cons, List.length_nil] at lengths
        omega
      rw [components_eq_stem several, joined, stem_append (List.cons_ne_nil first rest)]
      exact List.prefix_append _ _

/-- A joined path ends in a name, and so not in a slash. -/
theorem getLast?_join_name (directory : Path) (name : Name) :
    (directory.join ⟨name.bytes⟩).bytes.getLast? ≠ some slash := by
  intro ends
  obtain ⟨front, closed⟩ := List.getLast?_eq_some_iff.mp ends
  have last := congrArg List.getLast? (segments_join_name directory name)
  rw [segments_of_closed closed, List.getLast?_concat, List.getLast?_concat] at last
  exact name.proper.1 (Option.some.inj last).symm

/-- All its segments stay before those of its entries. -/
theorem base_join_name (directory : Path) (name : Name) :
    (directory.join ⟨name.bytes⟩).base = directory.base ++ [name.bytes] := by
  have joined := segments_join_name directory name
  have nonempty : (directory.join ⟨name.bytes⟩).bytes ≠ [] := by
    intro empty
    have last := congrArg List.getLast? joined
    rw [List.getLast?_concat] at last
    unfold segments at last
    rw [empty] at last
    exact name.proper.1 (Option.some.inj last).symm
  unfold base
  rw [if_neg nonempty, if_neg (getLast?_join_name directory name)]
  exact joined

end Join

end Path

end DocMarkers
