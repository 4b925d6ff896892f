import DocMarkers.Proofs.PlainPaths

/-! # Descending into directories

A walk that succeeds has a derivation with one rule for a step and one for a link on the way
(`Tree.Walks`). It leads to one entry, and it can be cut anywhere: a walk along two rows of steps is
a walk along the first and then one along the second.

So the path that joins a directory and the name of an entry of it leads to that entry, through
whatever links the directory itself is reached (`Tree.locate_join`).
-/

namespace DocMarkers

namespace Tree

/-- A walk with so many links to follow leads along some steps to an entry, and leaves some of the
links. -/
inductive Walks (tree : Tree) : (links : Nat) → (here : Location) → List Step → (left : Nat) →
    Location → Entry → Prop where
  | nil {links : Nat} {here : Location} {entry : Entry} (found : tree.find? here = some entry) :
      Walks tree links here [] links here entry
  | step {links left : Nat} {here location : Location} {step : Step} {rest : List Step}
      {entry : Entry} (inside : tree.find? here = some .directory) (short : step.isShort = true)
      (plain : ∀ target, tree.find? (step.leads here) ≠ some (.link target))
      (later : Walks tree links (step.leads here) rest left location entry) :
      Walks tree links here (step :: rest) left location entry
  | link {links left : Nat} {here location : Location} {name : Name} {target : Bytes}
      {rest : List Step} {entry : Entry} (inside : tree.find? here = some .directory)
      (short : name.isTooLong = false) (isLink : tree.find? (name :: here) = some (.link target))
      (later : Walks tree links (startOf here ⟨target⟩) (Step.ofBytes target ++ rest) left
        location entry) :
      Walks tree (links + 1) here (.into name :: rest) left location entry

/-- The directory above a directory is one as well. -/
theorem find?_tail {tree : Tree} {here : Location} (inside : tree.find? here = some .directory) :
    tree.find? here.tail = some .directory := by
  cases here with
  | nil => rfl
  | cons name parent => exact find?_parent inside

namespace Walks

variable {tree other : Tree} {links left : Nat} {here location middle : Location} {entry : Entry}
  {front rest steps : List Step}

theorem find? (walks : tree.Walks links here steps left location entry) :
    tree.find? location = some entry := by
  induction walks with
  | nil found => exact found
  | step _ _ _ _ ih => exact ih
  | link _ _ _ _ ih => exact ih

theorem exists_start (walks : tree.Walks links here steps left location entry) :
    ∃ start, tree.find? here = some start := by
  cases walks with
  | nil found => exact ⟨_, found⟩
  | step inside => exact ⟨_, inside⟩
  | link inside => exact ⟨_, inside⟩

/-- A walk along more steps goes on from where the first ones lead. Where a file is to be made, the
rest must not be slashes only. -/
theorem walk_append {makesFile : Bool} (walks : tree.Walks links here front left middle entry)
    (opened : (makesFile && rest.all (· == .gap)) = false) :
    tree.walk makesFile links here (front ++ rest) = tree.walk makesFile left middle rest := by
  have goesOn (front : List Step) : (makesFile && areSlashes (front ++ rest)) = false := by
    unfold areSlashes
    cases makesFile with
    | false => rfl
    | true =>
        rw [Bool.true_and] at opened ⊢
        rw [List.all_append, opened, Bool.and_false, Bool.and_false]
  induction walks with
  | nil => rfl
  | @step _ _ here _ step front _ inside short plain later ih =>
      rw [List.cons_append]
      cases step with
      | gap => rwa [walk_cons_of_directory inside]
      | stay => rwa [walk_cons_of_directory inside]
      | up => rwa [walk_cons_of_directory inside]
      | into name =>
          obtain ⟨between, found⟩ := later.exists_start
          have isShort : name.isTooLong = false := by
            simpa [Step.isShort] using short
          have real (target : Bytes) : between ≠ .link target := by
            intro same
            exact plain target (same ▸ found)
          rwa [walk_into inside (goesOn front) isShort found real]
  | link inside short isLink _ ih =>
      rwa [List.cons_append, walk_into_link inside (goesOn _) short isLink, ← List.append_assoc]

/-- What is derived is what the walk comes to. -/
theorem exists_walk (walks : tree.Walks links here steps left location entry) :
    ∃ found, tree.walk false links here steps = .ok (.entry location entry found) := by
  have ends : tree.walk false links here (steps ++ []) = tree.walk false left location [] :=
    walks.walk_append (Bool.false_and _)
  rw [List.append_nil, walk_nil walks.find?] at ends
  exact ⟨walks.find?, ends⟩

/-- A walk that comes to an entry has a derivation. -/
theorem exists_of_walk {makesFile : Bool} {found : tree.find? location = some entry}
    (walks : tree.walk makesFile links here steps = .ok (.entry location entry found)) :
    ∃ left, tree.Walks links here steps left location entry := by
  have idle {here : Location} (inside : tree.find? here = some .directory) (target : Bytes) :
      tree.find? here ≠ some (.link target) := by
    rw [inside]
    exact nofun
  fun_induction tree.walk makesFile links here steps with
  | case1 links here between start =>
      obtain ⟨rfl, rfl⟩ := Arrival.entry.inj (Except.ok.inj walks)
      exact ⟨links, .nil start⟩
  | case4 links here rest inside ih =>
      obtain ⟨left, later⟩ := ih walks
      exact ⟨left, .step inside rfl (idle inside) later⟩
  | case5 links here rest inside ih =>
      obtain ⟨left, later⟩ := ih walks
      exact ⟨left, .step inside rfl (idle inside) later⟩
  | case6 links here rest inside ih =>
      obtain ⟨left, later⟩ := ih walks
      exact ⟨left, .step inside rfl (idle (find?_tail inside)) later⟩
  | case12 here rest inside name _ short target isLink links start ih =>
      obtain ⟨left, later⟩ := ih walks
      exact ⟨left, .link inside (Bool.not_eq_true _ ▸ short) isLink later⟩
  | case13 links here rest inside name _ short between real isThere ih =>
      obtain ⟨left, later⟩ := ih walks
      refine ⟨left, .step inside (by simpa [Step.isShort] using short) ?_ later⟩
      intro target isLink
      exact real target (Option.some.inj (isThere.symm.trans isLink))
  | case2 | case3 | case7 | case8 | case9 | case10 | case11 | case14 => cases walks

/-- Two walks from one place along the same steps end alike. -/
theorem unique {otherLeft : Nat} {otherLocation : Location} {otherEntry : Entry}
    (walks : tree.Walks links here steps left location entry)
    (others : tree.Walks links here steps otherLeft otherLocation otherEntry) :
    left = otherLeft ∧ location = otherLocation := by
  induction walks with
  | nil =>
      cases others
      exact ⟨rfl, rfl⟩
  | step _ _ plain _ ih =>
      cases others with
      | step _ _ _ later => exact ih later
      | link _ _ isLink _ => exact absurd isLink (plain _)
  | link _ _ isLink _ ih =>
      cases others with
      | step _ _ plain _ => exact absurd isLink (plain _)
      | link _ _ same later =>
          obtain rfl := Entry.link.inj (Option.some.inj (isLink.symm.trans same))
          exact ih later

/-- A walk goes on where another one ended. -/
theorem append {stillLeft : Nat} {between : Entry}
    (first : tree.Walks links here front left middle between)
    (second : tree.Walks left middle rest stillLeft location entry) :
    tree.Walks links here (front ++ rest) stillLeft location entry := by
  induction first with
  | nil => exact second
  | step inside short plain _ ih => exact .step inside short plain (ih second)
  | link inside short isLink _ ih =>
      have later := ih second
      rw [List.append_assoc] at later
      exact .link inside short isLink later

/-- A walk can be cut between two steps. -/
theorem exists_of_append (walks : tree.Walks links here (front ++ rest) left location entry) :
    ∃ between middle what, tree.Walks links here front between middle what ∧
      tree.Walks between middle rest left location entry := by
  generalize whole : front ++ rest = steps at walks
  induction walks generalizing front with
  | nil found =>
      obtain ⟨rfl, rfl⟩ := List.append_eq_nil_iff.mp whole
      exact ⟨_, _, _, .nil found, .nil found⟩
  | step inside short plain later ih =>
      cases front with
      | nil =>
          rw [List.nil_append] at whole
          subst whole
          exact ⟨_, _, _, .nil inside, .step inside short plain later⟩
      | cons step front =>
          obtain ⟨rfl, same⟩ := List.cons.inj whole
          obtain ⟨between, middle, what, first, second⟩ := ih same
          exact ⟨between, middle, what, .step inside short plain first, second⟩
  | link inside short isLink later ih =>
      cases front with
      | nil =>
          rw [List.nil_append] at whole
          subst whole
          exact ⟨_, _, _, .nil inside, .link inside short isLink later⟩
      | cons step front =>
          obtain ⟨rfl, rfl⟩ := List.cons.inj whole
          obtain ⟨between, middle, what, first, second⟩ := ih (List.append_assoc _ front rest)
          exact ⟨between, middle, what, .link inside short isLink first, second⟩

/-- Trees with the same entries have the same walks. -/
theorem congr (same : ∀ location, other.find? location = tree.find? location)
    (walks : tree.Walks links here steps left location entry) :
    other.Walks links here steps left location entry := by
  induction walks with
  | nil found => exact .nil ((same _).trans found)
  | step inside short plain _ ih =>
      refine .step ((same _).trans inside) short ?_ ih
      intro target
      rw [same]
      exact plain target
  | link inside short isLink _ ih =>
      exact .link ((same _).trans inside) short ((same _).trans isLink) ih

end Walks

variable {tree other : Tree} {path : Path} {location : Location} {name : Name}

theorem directory_eq_ok_iff_locate :
    tree.directory path = .ok location ↔ tree.locate path = .ok (location, .directory) := by
  unfold directory
  cases tree.locate path with
  | error error => simp [bind, Except.bind]
  | ok found =>
      obtain ⟨here, entry⟩ := found
      cases entry <;> simp [bind, Except.bind, pure, Except.pure, throw, throwThe,
        MonadExceptOf.throw]

/-- What a path leads to has a walk that derives it. -/
theorem locate_eq_ok_iff_walks {entry : Entry} :
    tree.locate path = .ok (location, entry) ↔
      byteFault? path = none ∧ ∃ left,
        tree.Walks linkLimit (startOf tree.workingDirectory path) (Step.ofBytes path.bytes)
          left location entry := by
  rw [locate_eq_ok_iff]
  constructor
  · intro reached
    obtain ⟨sound, found, walks⟩ := reached
    exact ⟨sound, Walks.exists_of_walk walks⟩
  · intro derived
    obtain ⟨sound, left, walks⟩ := derived
    exact ⟨sound, walks.exists_walk⟩

theorem directory_eq_ok_iff :
    tree.directory path = .ok location ↔
      byteFault? path = none ∧ ∃ left,
        tree.Walks linkLimit (startOf tree.workingDirectory path) (Step.ofBytes path.bytes)
          left location .directory := by
  rw [directory_eq_ok_iff_locate, locate_eq_ok_iff_walks]

/-- The same directories are found in trees with the same entries. -/
theorem directory_congr (same : ∀ location, other.find? location = tree.find? location)
    (start : other.workingDirectory = tree.workingDirectory)
    (entered : tree.directory path = .ok location) : other.directory path = .ok location := by
  obtain ⟨sound, left, walks⟩ := directory_eq_ok_iff.mp entered
  rw [directory_eq_ok_iff, start]
  exact ⟨sound, left, walks.congr same⟩

end Tree

/-- What is joined to a path starts where the path does. -/
theorem Path.isAbsolute_join (path : Path) (name : Name) :
    (path.join ⟨name.bytes⟩).isAbsolute = path.isAbsolute := by
  have relative := isAbsolute_name name
  unfold join
  rw [relative, if_neg Bool.false_ne_true]
  unfold isAbsolute at relative ⊢
  cases chars : path.bytes with
  | nil => simpa using relative
  | cons first rest => split <;> simp

namespace Step

theorem ofSegment_name (name : Name) : ofSegment name.bytes = .into name := by
  unfold ofSegment
  rw [dif_pos name.proper]

/-- The steps of a path are those before its entries, and one more behind a slash at the end. -/
theorem ofBytes_eq_or (path : Path) :
    ofBytes path.bytes = path.base.map ofSegment ∨
      ofBytes path.bytes = path.base.map ofSegment ++ [.gap] := by
  have steps : ofBytes path.bytes = path.segments.map ofSegment := rfl
  rw [steps]
  by_cases empty : path.bytes = []
  · right
    unfold Path.base Path.segments
    rw [if_pos empty, empty]
    rfl
  by_cases ends : path.bytes.getLast? = some Path.slash
  · obtain ⟨front, closed⟩ := List.getLast?_eq_some_iff.mp ends
    right
    rw [Path.segments_of_closed closed, Path.base_of_closed closed, List.map_append]
    rfl
  · left
    unfold Path.base
    rw [if_neg empty, if_neg ends]

theorem ofBytes_join (path : Path) (name : Name) :
    ofBytes (path.join ⟨name.bytes⟩).bytes = path.base.map ofSegment ++ [.into name] := by
  have steps : ofBytes (path.join ⟨name.bytes⟩).bytes =
      (path.join ⟨name.bytes⟩).segments.map ofSegment := rfl
  rw [steps, Path.segments_join_name, List.map_append, List.map_singleton, ofSegment_name]

end Step

namespace Tree

variable {tree : Tree} {path : Path} {location : Location} {name : Name}

/-- A slash at the end of the path of a directory does not count. -/
theorem exists_walks_base (entered : tree.directory path = .ok location) :
    ∃ left what, tree.Walks linkLimit (startOf tree.workingDirectory path)
      (path.base.map Step.ofSegment) left location what := by
  obtain ⟨sound, left, walks⟩ := directory_eq_ok_iff.mp entered
  rcases Step.ofBytes_eq_or path with steps | steps
  · rw [steps] at walks
    exact ⟨left, _, walks⟩
  · rw [steps] at walks
    obtain ⟨between, middle, what, first, second⟩ := walks.exists_of_append
    cases second with
    | step _ _ _ later =>
        cases later
        exact ⟨_, what, first⟩

/-- The path that joins a directory and a name leads to what stands there under that name, if it is
no link and the path and the name are not too long. -/
theorem locate_join (entered : tree.directory path = .ok location)
    (plain : ∀ target, tree.find? (name :: location) ≠ some (.link target)) :
    tree.locate (path.join ⟨name.bytes⟩) =
      match byteFault? (path.join ⟨name.bytes⟩) with
      | some fault => .error fault
      | none =>
        if name.isTooLong then .error .nameTooLong
        else
          match tree.find? (name :: location) with
          | none => .error .missing
          | some entry => .ok (name :: location, entry) := by
  obtain ⟨left, what, walks⟩ := exists_walks_base entered
  have inside : tree.find? location = some .directory :=
    (locate_eq_ok_iff.mp (directory_eq_ok_iff_locate.mp entered)).2.find?
  unfold locate arrive
  cases byteFault? (path.join ⟨name.bytes⟩) with
  | some fault => rfl
  | none =>
      have start : startOf tree.workingDirectory (path.join ⟨name.bytes⟩) =
          startOf tree.workingDirectory path := by
        unfold startOf
        rw [Path.isAbsolute_join]
      dsimp only
      rw [start, Step.ofBytes_join, walks.walk_append (Bool.false_and _)]
      by_cases long : name.isTooLong = true
      · rw [walk_cons_of_directory inside]
        simp [long]
        rfl
      · rw [if_neg long]
        have short : name.isTooLong = false := Bool.not_eq_true _ ▸ long
        cases found : tree.find? (name :: location) with
        | none =>
            rw [walk_into_free inside short found]
            rfl
        | some entry =>
            have real (target : Bytes) : entry ≠ .link target := by
              intro same
              exact plain target (same ▸ found)
            rw [walk_into inside (Bool.false_and _) short found real, walk_nil found]
            rfl

/-- What joins a directory and the name of one that stands in it leads there, if it leads to a
directory at all: the path can be too long. -/
theorem location_of_join {other : Location} (entered : tree.directory path = .ok location)
    (found : tree.find? (name :: location) = some .directory)
    (joined : tree.directory (path.join ⟨name.bytes⟩) = .ok other) : other = name :: location := by
  rw [directory_eq_ok_iff_locate, locate_join entered (by simp [found])] at joined
  split at joined
  · cases joined
  · split at joined
    · cases joined
    · rw [found] at joined
      exact (Prod.mk.inj (Except.ok.inj joined)).1.symm

/-- Such a path leads there when neither it nor the name is too long. -/
theorem directory_join (entered : tree.directory path = .ok location)
    (found : tree.find? (name :: location) = some .directory) (short : name.isTooLong = false)
    (sound : byteFault? (path.join ⟨name.bytes⟩) = none) :
    tree.directory (path.join ⟨name.bytes⟩) = .ok (name :: location) := by
  rw [directory_eq_ok_iff_locate, locate_join entered (by simp [found]), sound, found]
  exact if_neg (by simp [short])

/-- Nothing is at the path that joins a directory and a name that none of its entries has. -/
theorem isPresent_join_of_free (entered : tree.directory path = .ok location)
    (free : tree.find? (name :: location) = none) :
    tree.isPresent (path.join ⟨name.bytes⟩) = false := by
  unfold isPresent
  rw [locate_join entered (by simp [free]), free]
  split
  · rfl
  · split <;> rfl

/-- The last step of such a path is taken from the directory. -/
theorem exists_approach_join (entered : tree.directory path = .ok location)
    (sound : byteFault? (path.join ⟨name.bytes⟩) = none) :
    ∃ within, tree.approach (path.join ⟨name.bytes⟩) = .ok (⟨location, within⟩, .into name) := by
  obtain ⟨left, what, walks⟩ := exists_walks_base entered
  have within : tree.find? location = some .directory :=
    (locate_eq_ok_iff.mp (directory_eq_ok_iff_locate.mp entered)).2.find?
  obtain rfl : what = .directory := Option.some.inj (walks.find?.symm.trans within)
  refine ⟨within, (approach_eq_ok_iff (Path.getLast?_join_name path name)).mpr ⟨sound, _,
    Step.ofBytes_join path name, ?_⟩⟩
  unfold startOf
  rw [Path.isAbsolute_join]
  exact walks.exists_walk

end Tree

end DocMarkers
