import DocMarkers.Proofs.Descents

/-! # Slashes at the end of a path

Slashes behind a path are steps that stay where they are (`Step.ofBytes_append_slashes`). So they do
not count when a directory is to be made, and one that is there cannot be made, however its path
ends (`Tree.makeDirectory_of_directory`).

The current directory has paths of any length, with slashes behind it (`slashed`). They lead there
as long as the text is not too long (`directory_slashed`).
-/

namespace DocMarkers

/-- Slashes behind a path are steps that stay. -/
theorem Step.ofBytes_append_slashes (bytes : Bytes) (count : Nat) :
    ofBytes (bytes ++ List.replicate count Path.slash) =
      ofBytes bytes ++ List.replicate count .gap := by
  induction count with
  | zero => simp
  | succ count ih =>
      rw [List.replicate_succ', ← List.append_assoc]
      unfold ofBytes at ih ⊢
      rw [Text.splitOn_append_cons, List.map_append, ih, List.append_assoc, List.replicate_succ']
      rfl

namespace Tree

section Directories

variable {tree : Tree} {path : Path} {location : Location}

theorem exists_ofBytes_slashes (path : Path) :
    ∃ count, Step.ofBytes path.bytes =
      Step.ofBytes (path.bytes.reverse.dropWhile (· == Path.slash)).reverse ++
        List.replicate count .gap := by
  have slashes : path.bytes.reverse.takeWhile (· == Path.slash) =
      List.replicate (path.bytes.reverse.takeWhile (· == Path.slash)).length Path.slash := by
    refine List.eq_replicate_iff.mpr ⟨rfl, ?_⟩
    intro c member
    simpa using List.all_eq_true.mp List.all_takeWhile c member
  refine ⟨(path.bytes.reverse.takeWhile (· == Path.slash)).length, ?_⟩
  rw [← Step.ofBytes_append_slashes, ← List.reverse_replicate, ← slashes, ← List.reverse_append,
    List.takeWhile_append_dropWhile, List.reverse_reverse]

/-- What a walk goes into is there. -/
theorem Walks.exists_of_into {links left : Nat} {here : Location} {name : Name} {rest : List Step}
    {entry : Entry} (walks : tree.Walks links here (.into name :: rest) left location entry) :
    name.isTooLong = false ∧ ∃ between, tree.find? (name :: here) = some between := by
  cases walks with
  | step _ short _ later => exact ⟨by simpa [Step.isShort] using short, later.exists_start⟩
  | link _ short isLink _ => exact ⟨short, _, isLink⟩

/-- The last step that is no slash is taken from a directory. -/
theorem exists_approach_of_directory (entered : tree.directory path = .ok location) :
    ∃ parent last, tree.approach path = .ok (parent, last) ∧
      ∃ links left middle entry, tree.Walks links parent.val [last] left middle entry := by
  obtain ⟨sound, left, walks⟩ := directory_eq_ok_iff.mp entered
  obtain ⟨count, spelled⟩ := exists_ofBytes_slashes path
  have filled : Step.ofBytes (path.bytes.reverse.dropWhile (· == Path.slash)).reverse ≠ [] := by
    intro empty
    exact Text.splitWhere_ne_nil _ _ (List.map_eq_nil_iff.mp empty)
  obtain ⟨front, last, split⟩ := (List.eq_nil_or_concat _).resolve_left filled
  rw [List.concat_eq_append] at split
  rw [spelled, split] at walks
  obtain ⟨_, _, _, whole, -⟩ := walks.exists_of_append
  obtain ⟨between, parent, what, above, own⟩ := whole.exists_of_append
  obtain rfl : what = .directory := by
    cases own with
    | step inside => exact Option.some.inj (above.find?.symm.trans inside)
    | link inside => exact Option.some.inj (above.find?.symm.trans inside)
  obtain ⟨found, isWalk⟩ := above.exists_walk
  refine ⟨⟨parent, found⟩, last, ?_, between, _, _, _, own⟩
  unfold approach
  rw [sound, split]
  dsimp only
  rw [List.dropLast_concat, isWalk, List.getLast?_concat]
  rfl

/-- A directory that is there cannot be made. -/
theorem makeDirectory_of_directory (entered : tree.directory path = .ok location) :
    tree.makeDirectory path = .error .occupied := by
  obtain ⟨parent, last, approached, _, _, _, _, own⟩ := exists_approach_of_directory entered
  unfold makeDirectory
  rw [approached]
  cases last with
  | gap => rfl
  | stay => rfl
  | up => rfl
  | into name =>
      obtain ⟨short, between, isThere⟩ := own.exists_of_into
      dsimp only
      rw [short, if_neg Bool.false_ne_true]
      split
      · next free => cases isThere.symm.trans free
      · rfl

theorem ensureDirectory_of_directory (entered : tree.directory path = .ok location) :
    tree.ensureDirectory path = (.ok (), tree) := by
  unfold ensureDirectory ensureFirst
  rw [makeDirectory_of_directory entered]
  dsimp only
  rw [isDirectory_iff.mpr ⟨location, entered⟩]
  split <;> rfl

end Directories

end Tree

/-- The current directory with slashes behind it. -/
def slashed (count : Nat) : Path := ⟨Path.dot :: List.replicate count Path.slash⟩

section Slashed

variable {count : Nat} {name : Name}

theorem closed_slashed (count : Nat) :
    (slashed (count + 1)).bytes =
      (Path.dot :: List.replicate count Path.slash) ++ [Path.slash] := by
  rw [List.cons_append, ← List.replicate_succ']
  rfl

theorem length_slashed (count : Nat) : (slashed count).bytes.length = count + 1 := by
  simp [slashed]

theorem bytes_join_slashed (name : Name) (count : Nat) :
    ((slashed (count + 1)).join ⟨name.bytes⟩).bytes =
      (slashed (count + 1)).bytes ++ name.bytes := by
  have ends : (slashed (count + 1)).bytes.getLast? = some Path.slash := by
    rw [closed_slashed, List.getLast?_concat]
  unfold Path.join
  rw [Path.isAbsolute_name, if_neg Bool.false_ne_true, if_pos (by simp [ends])]

/-- Only its length can be wrong with a path that starts with such slashes. -/
theorem byteFault?_slashed {path : Path} {rest : Bytes}
    (spelled : path.bytes = (slashed count).bytes ++ rest) (clean : 0 ∉ rest) :
    Tree.byteFault? path =
      if count + 1 + rest.length < Tree.pathLimit then none else some .nameTooLong := by
  have noNul : path.bytes.contains 0 = false := by
    rw [spelled]
    simp [slashed, clean, Path.dot, Path.slash]
  have filled : path.bytes.isEmpty = false := by
    rw [spelled]
    rfl
  have size : path.bytes.length = count + 1 + rest.length := by
    rw [spelled, List.length_append, length_slashed]
  unfold Tree.byteFault?
  rw [noNul, filled, size, if_neg Bool.false_ne_true, if_neg Bool.false_ne_true]
  by_cases room : count + 1 + rest.length < Tree.pathLimit
  · rw [if_pos room, if_neg (by omega)]
  · rw [if_neg room, if_pos (by omega)]

theorem ofBytes_slashed (count : Nat) :
    Step.ofBytes (slashed count).bytes = .stay :: List.replicate count .gap := by
  have start : Step.ofBytes [Path.dot] = [.stay] := by decide
  exact (Step.ofBytes_append_slashes [Path.dot] count).trans (congrArg (· ++ _) start)

theorem ofSegment_base_slashed (count : Nat) :
    (slashed (count + 1)).base.map Step.ofSegment = .stay :: List.replicate count .gap := by
  rw [Path.base_of_closed (closed_slashed count)]
  exact ofBytes_slashed count

/-- A walk along it stays. -/
theorem walks_slashed {tree : Tree} {links : Nat} {here : Location}
    (inside : tree.find? here = some .directory) (count : Nat) :
    tree.Walks links here (.stay :: List.replicate count .gap) links here .directory := by
  have idle (target : Bytes) : tree.find? here ≠ some (.link target) := by
    rw [inside]
    exact nofun
  have gaps : tree.Walks links here (List.replicate count .gap) links here .directory := by
    induction count with
    | zero => exact .nil inside
    | succ count ih => exact .step inside rfl idle ih
  exact .step inside rfl idle gaps

theorem directory_slashed {tree : Tree} (start : tree.workingDirectory = [])
    (room : count + 1 < Tree.pathLimit) : tree.directory (slashed count) = .ok [] := by
  have sound : Tree.byteFault? (slashed count) = none := by
    rw [byteFault?_slashed (List.append_nil _).symm List.not_mem_nil, if_pos (by simpa using room)]
  have here : Tree.startOf tree.workingDirectory (slashed count) = [] := by
    unfold Tree.startOf
    rw [start, ite_self]
  rw [Tree.directory_eq_ok_iff, ofBytes_slashed, here]
  exact ⟨sound, _, walks_slashed rfl _⟩

/-- A point leads to the root when relative paths start there. -/
theorem directory_here {tree : Tree} (start : tree.workingDirectory = []) :
    tree.directory ⟨"."⟩ = .ok [] :=
  @directory_slashed 0 tree start (by decide)

end Slashed

end DocMarkers
