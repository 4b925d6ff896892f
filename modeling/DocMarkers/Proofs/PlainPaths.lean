import DocMarkers.Proofs.JoinedPaths
import DocMarkers.Proofs.Walks
import DocMarkers.Tree.Edit

/-! # Plain paths

A path is plain in a tree when no step of it comes to a symbolic link. Then a walk along it goes
where the steps lead by themselves (`Tree.Reaches.location_eq`), so the text of the path tells which
location it stands for (`Tree.placeOf`), also when nothing is there yet.

What such a walk reaches is reached as well in every other tree that has all the directories
(`Tree.Reaches.of_kept`).
-/

namespace DocMarkers

namespace Step

/-- Where a step leads when nothing on the way is a link. -/
def leads (here : Location) : Step → Location
  | gap | stay => here
  | up => here.tail
  | into name => name :: here

/-- Where steps lead one after the other. -/
def follow (here : Location) (steps : List Step) : Location :=
  steps.foldl leads here

/-- Whether a step has no name that is too long. -/
def isShort : Step → Bool
  | into name => !name.isTooLong
  | _ => true

end Step

namespace Tree

/-- No step comes to a symbolic link. -/
def IsPlain (tree : Tree) (here : Location) (steps : List Step) : Prop :=
  ∀ front, front <+: steps → ∀ target, tree.find? (Step.follow here front) ≠ some (.link target)

/-- No symbolic link lies on a path. -/
def HasPlainPath (tree : Tree) (path : Path) : Prop :=
  tree.IsPlain (startOf tree.workingDirectory path) (Step.ofBytes path.bytes)

/-- The location that a plain path stands for. -/
def placeOf (tree : Tree) (path : Path) : Location :=
  Step.follow (startOf tree.workingDirectory path) (Step.ofBytes path.bytes)

/-- A walk along steps ends at an entry. -/
def Reaches (tree : Tree) (here : Location) (steps : List Step) (location : Location)
    (entry : Entry) : Prop :=
  ∃ found, tree.walk false linkLimit here steps = .ok (.entry location entry found)

variable {tree other : Tree} {here location middle : Location} {entry : Entry} {step : Step}
  {front rest steps : List Step} {path : Path}

theorem IsPlain.start (plain : tree.IsPlain here steps) (target : Bytes) :
    tree.find? here ≠ some (.link target) :=
  plain [] List.nil_prefix target

theorem IsPlain.tail (plain : tree.IsPlain here (step :: rest)) :
    tree.IsPlain (step.leads here) rest := by
  intro front isPrefix
  exact plain (step :: front) (List.cons_prefix_cons.mpr ⟨rfl, isPrefix⟩)

theorem IsPlain.of_append (plain : tree.IsPlain here (front ++ rest)) :
    tree.IsPlain here front := by
  intro part isPrefix
  exact plain part (isPrefix.trans (List.prefix_append _ _))

theorem IsPlain.of_links (plain : tree.IsPlain here steps)
    (links : ∀ location target, other.find? location = some (.link target) →
      tree.find? location = some (.link target)) : other.IsPlain here steps := by
  intro front isPrefix target found
  exact plain front isPrefix target (links _ target found)

theorem Reaches.find? (reaches : tree.Reaches here steps location entry) :
    tree.find? location = some entry :=
  reaches.elim fun found _ => found

theorem reaches_nil_iff :
    tree.Reaches here [] location entry ↔ location = here ∧ tree.find? here = some entry := by
  constructor
  · intro reaches
    obtain ⟨found, walks⟩ := reaches
    rw [walk] at walks
    split at walks
    · cases walks
      exact ⟨rfl, found⟩
    · cases walks
  · intro reached
    obtain ⟨rfl, found⟩ := reached
    exact ⟨found, walk_nil found⟩

theorem not_reaches_of_free (free : tree.find? here = none) :
    ¬ tree.Reaches here steps location entry := by
  intro reaches
  obtain ⟨found, walks⟩ := reaches
  cases steps with
  | nil =>
      rw [walk] at walks
      split at walks
      · next start => cases free.symm.trans start
      · cases walks
  | cons step rest =>
      rw [walk] at walks
      split at walks
      · cases walks
      · next start => cases free.symm.trans start
      · next start => cases free.symm.trans start

/-- A step that comes to no link is taken from a directory, and then the others are. -/
theorem reaches_cons_iff (plain : ∀ target, tree.find? (step.leads here) ≠ some (.link target)) :
    tree.Reaches here (step :: rest) location entry ↔
      tree.find? here = some .directory ∧ step.isShort = true ∧
        tree.Reaches (step.leads here) rest location entry := by
  unfold Reaches
  rw [walk]
  split
  · next absent => simp [absent]
  · next inside =>
    cases step with
    | gap => simp [inside, Step.isShort, Step.leads]
    | stay => simp [inside, Step.isShort, Step.leads]
    | up => simp [inside, Step.isShort, Step.leads]
    | into name =>
        dsimp only [Step.isShort, Step.leads] at plain ⊢
        rw [Bool.false_and, if_neg Bool.false_ne_true]
        by_cases long : name.isTooLong = true
        · simp [long]
        · rw [if_neg long]
          split
          · next free =>
            -- The walk ends at the free name or fails, and neither is an entry.
            have nowhere : ¬ ∃ found, tree.walk false linkLimit (name :: here) rest =
                .ok (.entry location entry found) := not_reaches_of_free free
            cases rest <;> simp [inside, long, nowhere]
          · next target found => exact absurd found (plain target)
          · simp [inside, long]
  · next different found =>
    have none : some _ ≠ some Entry.directory := fun same => different (Option.some.inj same)
    simp [found, none]

theorem Reaches.append {between : Entry} (plain : tree.IsPlain here (front ++ rest))
    (first : tree.Reaches here front middle between)
    (second : tree.Reaches middle rest location entry) :
    tree.Reaches here (front ++ rest) location entry := by
  induction front generalizing here with
  | nil =>
      obtain ⟨rfl, -⟩ := reaches_nil_iff.mp first
      exact second
  | cons step front ih =>
      obtain ⟨inside, short, later⟩ := (reaches_cons_iff plain.tail.start).mp first
      exact (reaches_cons_iff plain.tail.start).mpr ⟨inside, short, ih plain.tail later⟩

/-- What a walk comes to is reached as well when all directories on the way are still there. -/
theorem Reaches.of_kept {between : Entry} (plain : tree.IsPlain here steps)
    (otherPlain : other.IsPlain here steps)
    (kept : ∀ location, tree.find? location = some .directory →
      other.find? location = some .directory)
    (reaches : tree.Reaches here steps location between)
    (found : other.find? location = some entry) : other.Reaches here steps location entry := by
  induction steps generalizing here with
  | nil =>
      obtain ⟨rfl, -⟩ := reaches_nil_iff.mp reaches
      exact reaches_nil_iff.mpr ⟨rfl, found⟩
  | cons step rest ih =>
      obtain ⟨inside, short, later⟩ := (reaches_cons_iff plain.tail.start).mp reaches
      apply (reaches_cons_iff otherPlain.tail.start).mpr
      exact ⟨kept here inside, short, ih plain.tail otherPlain.tail later⟩

theorem locate_eq_ok_iff :
    tree.locate path = .ok (location, entry) ↔
      byteFault? path = none ∧
        tree.Reaches (startOf tree.workingDirectory path) (Step.ofBytes path.bytes) location
          entry := by
  unfold locate arrive Reaches
  cases byteFault? path with
  | some fault => simp [bind, Except.bind]
  | none =>
      dsimp only
      cases tree.walk false linkLimit (startOf tree.workingDirectory path)
        (Step.ofBytes path.bytes) with
      | error error => simp [bind, Except.bind]
      | ok arrival =>
          cases arrival with
          | entry here what found =>
              constructor
              · intro located
                obtain ⟨rfl, rfl⟩ := Prod.mk.inj (Except.ok.inj located)
                exact ⟨rfl, found, rfl⟩
              · intro reached
                obtain ⟨-, isThere, same⟩ := reached
                obtain ⟨rfl, rfl⟩ := Arrival.entry.inj (Except.ok.inj same)
                rfl
          | vacant name parent within free => simp [bind, Except.bind, throw, throwThe,
              MonadExceptOf.throw]

/-- What was located at the end of a plain path is located there still when the directories are
kept. -/
theorem locate_of_kept {between : Entry} (plain : tree.HasPlainPath path)
    (otherPlain : other.HasPlainPath path) (same : other.workingDirectory = tree.workingDirectory)
    (kept : ∀ location, tree.find? location = some .directory →
      other.find? location = some .directory)
    (located : tree.locate path = .ok (location, between))
    (found : other.find? location = some entry) : other.locate path = .ok (location, entry) := by
  obtain ⟨sound, reaches⟩ := locate_eq_ok_iff.mp located
  unfold HasPlainPath at otherPlain
  rw [same] at otherPlain
  rw [locate_eq_ok_iff, same]
  exact ⟨sound, reaches.of_kept plain otherPlain kept found⟩

/-- The directory of the last step of a path, when no slash follows that step. -/
theorem approach_eq_ok_iff {parent : Directory tree}
    (opened : path.bytes.getLast? ≠ some Path.slash) :
    tree.approach path = .ok (parent, step) ↔
      byteFault? path = none ∧ ∃ front, Step.ofBytes path.bytes = front ++ [step] ∧
        tree.Reaches (startOf tree.workingDirectory path) front parent.val .directory := by
  have whole : (path.bytes.reverse.dropWhile (· == Path.slash)).reverse = path.bytes := by
    rw [← List.head?_reverse] at opened
    cases chars : path.bytes.reverse with
    | nil => exact (List.reverse_eq_nil_iff.mp chars).symm
    | cons last others =>
        rw [chars] at opened
        have kept : (last == Path.slash) = false := by simpa using opened
        rw [List.dropWhile_cons_of_neg (by simp [kept]), ← chars, List.reverse_reverse]
  have filled : Step.ofBytes path.bytes ≠ [] := by
    intro empty
    exact path.segments_ne_nil (List.map_eq_nil_iff.mp empty)
  unfold approach
  rw [whole]
  constructor
  · intro approached
    cases fault : byteFault? path with
    | some fault =>
        rw [fault] at approached
        cases approached
    | none =>
        rw [fault] at approached
        dsimp only at approached
        split at approached
        · cases approached
        · next location found walks =>
          obtain ⟨rfl, last⟩ := Prod.mk.inj (Except.ok.inj approached)
          refine ⟨rfl, _, ?_, found, walks⟩
          rw [← last, List.getLast?_eq_some_getLast filled, Option.getD_some,
            List.dropLast_concat_getLast]
        · cases approached
        · cases approached
  · intro reached
    obtain ⟨sound, front, steps, found, walks⟩ := reached
    rw [sound, steps]
    dsimp only
    rw [List.dropLast_concat, walks, List.getLast?_concat]
    rfl

theorem exists_of_replace {after : Tree} (replaced : tree.replace path entry = .ok after) :
    byteFault? path = none ∧ ∃ front name parent within replaceable,
      Step.ofBytes path.bytes = front ++ [.into name] ∧
        tree.Reaches (startOf tree.workingDirectory path) front parent .directory ∧
        name.isTooLong = false ∧ after = tree.put name parent entry within replaceable := by
  unfold replace at replaced
  split at replaced
  · cases replaced
  · next parent within name approached =>
    split at replaced
    · cases replaced
    · next short =>
      split at replaced
      · cases replaced
      · next opened =>
        split at replaced
        · cases replaced
        · next replaceable =>
          obtain ⟨sound, front, steps, reaches⟩ := (approach_eq_ok_iff opened).mp approached
          exact ⟨sound, front, name, parent, within, replaceable, steps, reaches,
            Bool.not_eq_true _ ▸ short, (Except.ok.inj replaced).symm⟩
  · cases replaced

end Tree

end DocMarkers
