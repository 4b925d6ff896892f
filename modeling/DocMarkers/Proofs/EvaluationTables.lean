import DocMarkers.Evaluation
import DocMarkers.Proofs.Circles
import Mathlib.Data.List.Nodup

/-! # The tables of an evaluation

An evaluation works on tables: a slot for the outcome of every check, and a mark for every check
whose evaluation is under way. `Evaluates` has one rule for each thing that can be found about a
check, so that a derivation is an evaluation that ends. There is at most one (`Evaluates.unique`).
The tables also keep a record of all that was stored and of all that was looked up.

Whatever is evaluated, no slot that has an outcome gets another one, the slot of a marked check is
left alone, and in the end the same checks are marked as before (`Evaluates.keeps`). So an unmarked
check without an outcome has none either when its parts are done (`Evaluates.isEmpty`): storing an
outcome fills an empty slot, and the record has nothing twice (`Evaluates.sound`).
-/

namespace DocMarkers

/-- What an evaluation works on. -/
structure Tables where
  /-- The outcome of each check, once it is stored. -/
  slots : List (Option Outcome)
  /-- Whether the evaluation of each check is under way. -/
  marks : List Bool
  /-- All outcomes that were stored, in order. -/
  stored : List (CheckId × Outcome)
  /-- The checks whose link was looked up, in order. -/
  probed : List CheckId

namespace Tables

/-- The tables at the start. -/
def blank (checks : List Check) : Tables where
  slots := List.replicate checks.length none
  marks := List.replicate checks.length false
  stored := []
  probed := []

/-- The evaluation of a check begins. -/
def mark (tables : Tables) (id : CheckId) : Tables :=
  { tables with marks := tables.marks.set id.index true }

/-- The link of a check is looked up. -/
def look (tables : Tables) (id : CheckId) : Tables :=
  { tables with probed := tables.probed ++ [id] }

/-- The evaluation of a check ends with an outcome, which is written over what is in its slot. -/
def store (tables : Tables) (id : CheckId) (outcome : Outcome) : Tables where
  slots := tables.slots.set id.index (some outcome)
  marks := tables.marks.set id.index false
  stored := tables.stored ++ [(id, outcome)]
  probed := tables.probed

/-- The slot of a check has an outcome. -/
def Holds (tables : Tables) (id : CheckId) (outcome : Outcome) : Prop :=
  tables.slots[id.index]? = some (some outcome)

/-- The slot of a check is empty. -/
def IsEmpty (tables : Tables) (id : CheckId) : Prop :=
  tables.slots[id.index]? = some none

/-- The evaluation of a check is under way. -/
def IsMarked (tables : Tables) (id : CheckId) : Prop :=
  tables.marks[id.index]? = some true

/-- The evaluation of a check is not under way. -/
def IsUnmarked (tables : Tables) (id : CheckId) : Prop :=
  tables.marks[id.index]? = some false

end Tables

/-- `Evaluates checks root probe tables ids outcomes later`: the evaluation of some checks, one
after the other, gives these outcomes and turns the tables into later ones. -/
inductive Evaluates (checks : List Check) (root : Path) (probe : Probe) :
    Tables → List CheckId → List Outcome → Tables → Prop where
  | done {tables : Tables} : Evaluates checks root probe tables [] [] tables
  /-- What is stored is given again. -/
  | stored {tables last : Tables} {id : CheckId} {rest : List CheckId} {outcome : Outcome}
      {outcomes : List Outcome} (holds : tables.Holds id outcome)
      (later : Evaluates checks root probe tables rest outcomes last) :
      Evaluates checks root probe tables (id :: rest) (outcome :: outcomes) last
  /-- A check that is asked for while its own evaluation is under way cannot be decided. -/
  | reentered {tables last : Tables} {id : CheckId} {rest : List CheckId}
      {outcomes : List Outcome} (empty : tables.IsEmpty id) (marked : tables.IsMarked id)
      (later : Evaluates checks root probe tables rest outcomes last) :
      Evaluates checks root probe tables (id :: rest)
        (.indeterminate UnknownReason.cyclicReference.message :: outcomes) last
  | url {tables last : Tables} {id : CheckId} {rest : List CheckId} {check : UrlCheck}
      {outcomes : List Outcome} (empty : tables.IsEmpty id) (unmarked : tables.IsUnmarked id)
      (found : checks[id.index]? = some (.url check))
      (later : Evaluates checks root probe
        (((tables.mark id).look id).store id (probe (check.target root))) rest outcomes last) :
      Evaluates checks root probe tables (id :: rest) (probe (check.target root) :: outcomes) last
  | unknown {tables last : Tables} {id : CheckId} {rest : List CheckId} {reason : UnknownReason}
      {outcomes : List Outcome} (empty : tables.IsEmpty id) (unmarked : tables.IsUnmarked id)
      (found : checks[id.index]? = some (.unknown reason))
      (later : Evaluates checks root probe
        ((tables.mark id).store id (.indeterminate reason.message)) rest outcomes last) :
      Evaluates checks root probe tables (id :: rest)
        (.indeterminate reason.message :: outcomes) last
  /-- The parts of a composite check are evaluated while it is marked. -/
  | composite {tables middle last : Tables} {id : CheckId} {rest parts : List CheckId}
      {inner outcomes : List Outcome} (empty : tables.IsEmpty id) (unmarked : tables.IsUnmarked id)
      (found : checks[id.index]? = some (.composite parts))
      (within : Evaluates checks root probe (tables.mark id) parts inner middle)
      (later : Evaluates checks root probe (middle.store id (Outcome.combine inner)) rest outcomes
        last) :
      Evaluates checks root probe tables (id :: rest) (Outcome.combine inner :: outcomes) last

namespace Tables

/-- What evaluating leaves alone. -/
structure Keeps (before after : Tables) : Prop where
  /-- An outcome that is stored is not written over. -/
  holds : ∀ {id outcome}, before.Holds id outcome → after.Holds id outcome
  /-- The slot of a marked check is not written to. -/
  empty : ∀ {id}, before.IsMarked id → before.IsEmpty id → after.IsEmpty id
  marks : after.marks = before.marks
  /-- There are as many slots as before. -/
  length : after.slots.length = before.slots.length

namespace Keeps

variable {before middle after : Tables} {id : CheckId}

theorem refl (tables : Tables) : tables.Keeps tables where
  holds := fun holds => holds
  empty := fun _ empty => empty
  marks := rfl
  length := rfl

theorem trans (first : before.Keeps middle) (second : middle.Keeps after) : before.Keeps after where
  holds := fun holds => second.holds (first.holds holds)
  empty := by
    intro id marked empty
    have stillMarked : middle.IsMarked id := by
      unfold IsMarked
      rw [first.marks]
      exact marked
    exact second.empty stillMarked (first.empty marked empty)
  marks := second.marks.trans first.marks
  length := second.length.trans first.length

theorem isUnmarked (keeps : before.Keeps after) (unmarked : before.IsUnmarked id) :
    after.IsUnmarked id := by
  unfold IsUnmarked
  rw [keeps.marks]
  exact unmarked

theorem look (tables : Tables) (id : CheckId) : tables.Keeps (tables.look id) where
  holds := fun holds => holds
  empty := fun _ empty => empty
  marks := rfl
  length := rfl

/-- A check that was empty and not marked may be marked and stored. -/
theorem store {outcome : Outcome} (empty : before.IsEmpty id) (unmarked : before.IsUnmarked id)
    (within : (before.mark id).Keeps middle) : before.Keeps (middle.store id outcome) where
  holds := by
    intro other found holds
    have different : id.index ≠ other.index := by
      intro same
      unfold IsEmpty at empty
      rw [same] at empty
      cases holds.symm.trans empty
    have held : middle.Holds other found := within.holds holds
    exact (List.getElem?_set_ne different).trans held
  empty := by
    intro other marked otherEmpty
    have different : id.index ≠ other.index := by
      intro same
      unfold IsUnmarked at unmarked
      rw [same] at unmarked
      cases marked.symm.trans unmarked
    have stillMarked : (before.mark id).IsMarked other :=
      (List.getElem?_set_ne different).trans marked
    have stillEmpty : middle.IsEmpty other := within.empty stillMarked otherEmpty
    exact (List.getElem?_set_ne different).trans stillEmpty
  marks := by
    obtain ⟨inside, same⟩ := List.getElem?_eq_some_iff.mp unmarked
    have marks : (middle.store id outcome).marks =
        (before.marks.set id.index true).set id.index false :=
      congrArg (fun marks => List.set marks id.index false) within.marks
    rw [marks, List.set_set, ← same, List.set_getElem_self]
  length := List.length_set.trans within.length

end Keeps

theorem isMarked_mark {tables : Tables} {id : CheckId} (unmarked : tables.IsUnmarked id) :
    (tables.mark id).IsMarked id :=
  List.getElem?_set_self (List.getElem?_eq_some_iff.mp unmarked).1

/-- Storing an outcome in an empty slot fills this slot and no other. -/
theorem holds_store_iff {tables : Tables} {id other : CheckId} {outcome found : Outcome}
    (empty : tables.IsEmpty id) :
    (tables.store id outcome).Holds other found ↔
      tables.Holds other found ∨ other = id ∧ found = outcome := by
  unfold Holds IsEmpty at *
  by_cases same : other = id
  · subst same
    have filled : (tables.store other outcome).slots[other.index]? = some (some outcome) :=
      List.getElem?_set_self (List.getElem?_eq_some_iff.mp empty).1
    rw [filled, empty]
    simp [eq_comm]
  · have different : id.index ≠ other.index := fun equal => same (congrArg CheckId.mk equal.symm)
    have kept : (tables.store id outcome).slots[other.index]? = tables.slots[other.index]? :=
      List.getElem?_set_ne different
    rw [kept]
    simp [same]

theorem holds_store {tables : Tables} {id : CheckId} {outcome : Outcome}
    (empty : tables.IsEmpty id) : (tables.store id outcome).Holds id outcome :=
  (holds_store_iff empty).mpr (.inr ⟨rfl, rfl⟩)

/-- The record fits the slots: every outcome that is there was stored once, and every link with an
outcome was looked up once. -/
structure Sound (checks : List Check) (tables : Tables) : Prop where
  nodup_stored : (tables.stored.map Prod.fst).Nodup
  mem_stored : ∀ id outcome, (id, outcome) ∈ tables.stored ↔ tables.Holds id outcome
  nodup_probed : tables.probed.Nodup
  mem_probed : ∀ id, id ∈ tables.probed ↔
    (∃ check, checks[id.index]? = some (.url check)) ∧ ∃ outcome, tables.Holds id outcome

namespace Sound

variable {checks : List Check} {tables : Tables} {id : CheckId} {outcome : Outcome}

theorem not_mem_stored (sound : tables.Sound checks) (empty : tables.IsEmpty id) :
    id ∉ tables.stored.map Prod.fst := by
  intro member
  obtain ⟨⟨_, found⟩, stored, rfl⟩ := List.mem_map.mp member
  cases ((sound.mem_stored _ _).mp stored).symm.trans empty

theorem not_mem_probed (sound : tables.Sound checks) (empty : tables.IsEmpty id) :
    id ∉ tables.probed := by
  intro member
  obtain ⟨-, found, holds⟩ := (sound.mem_probed id).mp member
  cases holds.symm.trans empty

theorem mark (sound : tables.Sound checks) (id : CheckId) : (tables.mark id).Sound checks :=
  ⟨sound.nodup_stored, sound.mem_stored, sound.nodup_probed, sound.mem_probed⟩

theorem nodup_store (sound : tables.Sound checks) (empty : tables.IsEmpty id) :
    ((tables.store id outcome).stored.map Prod.fst).Nodup := by
  have rows : (tables.store id outcome).stored.map Prod.fst = tables.stored.map Prod.fst ++ [id] :=
    List.map_append
  rw [rows, ← List.concat_eq_append]
  exact sound.nodup_stored.concat (sound.not_mem_stored empty)

theorem mem_store (sound : tables.Sound checks) (empty : tables.IsEmpty id) (other : CheckId)
    (found : Outcome) :
    (other, found) ∈ (tables.store id outcome).stored ↔
      (tables.store id outcome).Holds other found := by
  have rows : (tables.store id outcome).stored = tables.stored ++ [(id, outcome)] := rfl
  rw [rows, List.mem_append, List.mem_singleton, Prod.mk.injEq, sound.mem_stored,
    holds_store_iff empty]

/-- Storing what is no link keeps the record. -/
theorem store (sound : tables.Sound checks) (empty : tables.IsEmpty id)
    (noLink : ∀ check, checks[id.index]? ≠ some (.url check)) :
    (tables.store id outcome).Sound checks where
  nodup_stored := sound.nodup_store empty
  mem_stored := sound.mem_store empty
  nodup_probed := sound.nodup_probed
  mem_probed := by
    intro other
    refine (sound.mem_probed other).trans (and_congr_right ?_)
    rintro ⟨check, found⟩
    have different : other ≠ id := by
      rintro rfl
      exact noLink check found
    simp only [holds_store_iff empty, different, false_and, or_false]

/-- Looking a link up and storing the answer keeps the record. -/
theorem look (sound : tables.Sound checks) (empty : tables.IsEmpty id) {check : UrlCheck}
    (isLink : checks[id.index]? = some (.url check)) :
    ((tables.look id).store id outcome).Sound checks where
  nodup_stored := sound.nodup_store empty
  mem_stored := sound.mem_store empty
  nodup_probed := by
    have rows : ((tables.look id).store id outcome).probed = tables.probed ++ [id] := rfl
    rw [rows, ← List.concat_eq_append]
    exact sound.nodup_probed.concat (sound.not_mem_probed empty)
  mem_probed := by
    intro other
    have rows : ((tables.look id).store id outcome).probed = tables.probed ++ [id] := rfl
    have emptyStill : (tables.look id).IsEmpty id := empty
    have holds (found : Outcome) : (tables.look id).Holds other found ↔ tables.Holds other found :=
      .rfl
    simp only [rows, List.mem_append, List.mem_singleton, sound.mem_probed,
      holds_store_iff emptyStill, holds, exists_or, exists_and_left, exists_eq, and_true]
    constructor
    · rintro (⟨otherLink, filled⟩ | rfl)
      · exact ⟨otherLink, .inl filled⟩
      · exact ⟨⟨check, isLink⟩, .inr rfl⟩
    · rintro ⟨otherLink, filled | rfl⟩
      · exact .inl ⟨otherLink, filled⟩
      · exact .inr rfl

theorem blank (checks : List Check) : (Tables.blank checks).Sound checks where
  nodup_stored := .nil
  mem_stored := by
    intro id outcome
    refine ⟨fun member => absurd member List.not_mem_nil, fun holds => ?_⟩
    cases List.eq_of_mem_replicate (List.mem_of_getElem? holds)
  nodup_probed := .nil
  mem_probed := by
    intro id
    refine ⟨fun member => absurd member List.not_mem_nil, ?_⟩
    rintro ⟨-, outcome, holds⟩
    cases List.eq_of_mem_replicate (List.mem_of_getElem? holds)

end Sound

end Tables

section Calls

variable {checks : List Check} {root : Path} {probe : Probe} {tables middle last : Tables}
  {ids rest : List CheckId} {outcomes later : List Outcome}

/-- Evaluating keeps the outcomes that are there, leaves the slots of marked checks alone, and ends
with the marks that it began with. -/
theorem Evaluates.keeps (evaluates : Evaluates checks root probe tables ids outcomes last) :
    tables.Keeps last := by
  induction evaluates with
  | done => exact .refl _
  | stored _ _ ih => exact ih
  | reentered _ _ _ ih => exact ih
  | url empty unmarked _ _ ih => exact (Tables.Keeps.store empty unmarked (.look _ _)).trans ih
  | unknown empty unmarked _ _ ih => exact (Tables.Keeps.store empty unmarked (.refl _)).trans ih
  | composite empty unmarked _ _ _ within ih => exact (within.store empty unmarked).trans ih

/-- While the parts of a check are evaluated, nothing is stored for the check itself. -/
theorem Evaluates.isEmpty {id : CheckId}
    (within : Evaluates checks root probe (tables.mark id) ids outcomes middle)
    (empty : tables.IsEmpty id) (unmarked : tables.IsUnmarked id) : middle.IsEmpty id :=
  within.keeps.empty (Tables.isMarked_mark unmarked) empty

/-- Evaluating keeps the record fit. -/
theorem Evaluates.sound (evaluates : Evaluates checks root probe tables ids outcomes last)
    (sound : tables.Sound checks) : last.Sound checks := by
  induction evaluates with
  | done => exact sound
  | stored _ _ ih => exact ih sound
  | reentered _ _ _ ih => exact ih sound
  | url empty _ found _ ih => exact ih ((sound.mark _).look empty found)
  | unknown empty _ found _ ih => exact ih ((sound.mark _).store empty (by simp [found]))
  | composite empty unmarked found within _ inner ih =>
      exact ih ((inner (sound.mark _)).store (within.isEmpty empty unmarked) (by simp [found]))

/-- The first check in a row is evaluated before the others, and unless it was marked, its outcome
is stored then. -/
theorem Evaluates.exists_next {id : CheckId}
    (evaluates : Evaluates checks root probe tables (id :: rest) outcomes last) :
    ∃ next outcome others, outcomes = outcome :: others ∧ tables.Keeps next ∧
      Evaluates checks root probe next rest others last ∧
        (tables.IsUnmarked id → next.Holds id outcome) := by
  cases evaluates with
  | stored holds later => exact ⟨_, _, _, rfl, .refl _, later, fun _ => holds⟩
  | reentered empty marked later =>
      refine ⟨_, _, _, rfl, .refl _, later, fun unmarked => ?_⟩
      cases marked.symm.trans unmarked
  | url empty unmarked found later =>
      exact ⟨_, _, _, rfl, .store empty unmarked (.look _ _), later,
        fun _ => Tables.holds_store empty⟩
  | unknown empty unmarked found later =>
      exact ⟨_, _, _, rfl, .store empty unmarked (.refl _), later,
        fun _ => Tables.holds_store empty⟩
  | composite empty unmarked found within later =>
      exact ⟨_, _, _, rfl, .store empty unmarked within.keeps, later,
        fun _ => Tables.holds_store (within.isEmpty empty unmarked)⟩

/-- Whatever is evaluated while it is not marked has an outcome afterwards. -/
theorem Evaluates.exists_holds (evaluates : Evaluates checks root probe tables ids outcomes last)
    {id : CheckId} (member : id ∈ ids) (unmarked : tables.IsUnmarked id) :
    ∃ outcome, last.Holds id outcome := by
  induction ids generalizing tables outcomes with
  | nil => cases member
  | cons first rest ih =>
      obtain ⟨next, outcome, others, -, keeps, later, holds⟩ := evaluates.exists_next
      rcases List.mem_cons.mp member with rfl | member
      · exact ⟨outcome, later.keeps.holds (holds unmarked)⟩
      · exact ih later member (keeps.isUnmarked unmarked)

/-- Rows of checks may be evaluated one after the other. -/
theorem Evaluates.append (first : Evaluates checks root probe tables ids outcomes middle)
    (second : Evaluates checks root probe middle rest later last) :
    Evaluates checks root probe tables (ids ++ rest) (outcomes ++ later) last := by
  induction first with
  | done => exact second
  | stored holds _ ih => exact .stored holds (ih second)
  | reentered empty marked _ ih => exact .reentered empty marked (ih second)
  | url empty unmarked found _ ih => exact .url empty unmarked found (ih second)
  | unknown empty unmarked found _ ih => exact .unknown empty unmarked found (ih second)
  | composite empty unmarked found within _ _ ih =>
      exact .composite empty unmarked found within (ih second)

/-- What is found about a check decides how it is evaluated. -/
theorem Evaluates.unique {others : List Outcome} {other : Tables}
    (one : Evaluates checks root probe tables ids outcomes last)
    (two : Evaluates checks root probe tables ids others other) :
    outcomes = others ∧ last = other := by
  induction one generalizing others other with
  | done =>
      cases two with
      | done => exact ⟨rfl, rfl⟩
  | stored holds _ ih =>
      cases two with
      | stored otherHolds later =>
          obtain rfl := Option.some.inj (Option.some.inj (holds.symm.trans otherHolds))
          obtain ⟨rfl, rfl⟩ := ih later
          exact ⟨rfl, rfl⟩
      | reentered empty _ _ => cases holds.symm.trans empty
      | url empty _ _ _ => cases holds.symm.trans empty
      | unknown empty _ _ _ => cases holds.symm.trans empty
      | composite empty _ _ _ _ => cases holds.symm.trans empty
  | reentered empty marked _ ih =>
      cases two with
      | stored holds _ => cases holds.symm.trans empty
      | reentered _ _ later =>
          obtain ⟨rfl, rfl⟩ := ih later
          exact ⟨rfl, rfl⟩
      | url _ unmarked _ _ => cases marked.symm.trans unmarked
      | unknown _ unmarked _ _ => cases marked.symm.trans unmarked
      | composite _ unmarked _ _ _ => cases marked.symm.trans unmarked
  | url empty unmarked found _ ih =>
      cases two with
      | stored holds _ => cases holds.symm.trans empty
      | reentered _ marked _ => cases marked.symm.trans unmarked
      | url _ _ otherFound later =>
          obtain rfl := Check.url.inj (Option.some.inj (found.symm.trans otherFound))
          obtain ⟨rfl, rfl⟩ := ih later
          exact ⟨rfl, rfl⟩
      | unknown _ _ otherFound _ => cases found.symm.trans otherFound
      | composite _ _ otherFound _ _ => cases found.symm.trans otherFound
  | unknown empty unmarked found _ ih =>
      cases two with
      | stored holds _ => cases holds.symm.trans empty
      | reentered _ marked _ => cases marked.symm.trans unmarked
      | url _ _ otherFound _ => cases found.symm.trans otherFound
      | unknown _ _ otherFound later =>
          obtain rfl := Check.unknown.inj (Option.some.inj (found.symm.trans otherFound))
          obtain ⟨rfl, rfl⟩ := ih later
          exact ⟨rfl, rfl⟩
      | composite _ _ otherFound _ _ => cases found.symm.trans otherFound
  | composite empty unmarked found _ _ inner ih =>
      cases two with
      | stored holds _ => cases holds.symm.trans empty
      | reentered _ marked _ => cases marked.symm.trans unmarked
      | url _ _ otherFound _ => cases found.symm.trans otherFound
      | unknown _ _ otherFound _ => cases found.symm.trans otherFound
      | composite _ _ otherFound within later =>
          obtain rfl := parts_unique found otherFound
          obtain ⟨rfl, rfl⟩ := inner within
          obtain ⟨rfl, rfl⟩ := ih later
          exact ⟨rfl, rfl⟩

end Calls

end DocMarkers
