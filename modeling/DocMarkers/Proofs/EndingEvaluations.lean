import DocMarkers.Proofs.EvaluationTables
import DocMarkers.Proofs.Memoisation

/-! # Every evaluation ends

On checks that refer to each other in any way, circles included, the evaluation of all checks ends:
its tables follow the visits of a run (`evaluates_visit`), which end because each visit leaves one
check less that is idle. Afterwards every check has been stored once and every link looked up once
(`evaluation_ends`).
-/

namespace DocMarkers

section Following

variable {checks : List Check} {root : Path} {probe : Probe} {idle : List CheckId}
  {progress : Progress} {id : CheckId}

/-- The tables that hold what an evaluation has found so far; all checks that are not idle are
marked. -/
def Tables.ofProgress (checks : List Check) (idle : List CheckId) (progress : Progress) :
    Tables where
  slots := (Evaluation.ids checks).map progress.outcome?
  marks := (Evaluation.ids checks).map fun id => decide (id ∉ idle)
  stored := progress.known
  probed := progress.probed

namespace Tables

theorem getElem?_map_ids {α : Type} (value : CheckId → α) (id : CheckId)
    (bounded : id.index < checks.length) :
    ((Evaluation.ids checks).map value)[id.index]? = some (value id) := by
  unfold Evaluation.ids
  simp [bounded]

/-- Changing the value of one check changes the row at its place. -/
theorem set_map_ids {α : Type} {value : CheckId → α} (other : CheckId → α)
    (bounded : id.index < checks.length) (same : ∀ part, part ≠ id → value part = other part) :
    ((Evaluation.ids checks).map value).set id.index (other id) =
      (Evaluation.ids checks).map other := by
  have length (values : CheckId → α) :
      ((Evaluation.ids checks).map values).length = checks.length := by
    simp [Evaluation.ids]
  apply List.ext_getElem?
  intro place
  by_cases here : id.index = place
  · subst here
    rw [List.getElem?_set_self (by rwa [length]), getElem?_map_ids other id bounded]
  · rw [List.getElem?_set_ne here]
    by_cases inside : place < checks.length
    · have different : CheckId.mk place ≠ id :=
        fun equal => here (congrArg CheckId.index equal).symm
      exact (getElem?_map_ids value ⟨place⟩ inside).trans
        ((congrArg some (same _ different)).trans (getElem?_map_ids other ⟨place⟩ inside).symm)
    · rw [List.getElem?_eq_none (by rw [length]; exact Nat.not_lt.mp inside),
        List.getElem?_eq_none (by rw [length]; exact Nat.not_lt.mp inside)]

theorem map_ids_const {α : Type} {value : CheckId → α} {constant : α}
    (same : ∀ id ∈ Evaluation.ids checks, value id = constant) :
    (Evaluation.ids checks).map value = List.replicate checks.length constant := by
  rw [List.map_congr_left same, List.map_const']
  simp [Evaluation.ids]

/-- When all checks are idle, no check is marked. -/
theorem marks_ofProgress_ids (checks : List Check) (progress : Progress) :
    (ofProgress checks (Evaluation.ids checks) progress).marks =
      List.replicate checks.length false :=
  map_ids_const fun _ member => decide_eq_false (not_not_intro member)

theorem ofProgress_start (checks : List Check) :
    ofProgress checks (Evaluation.ids checks) .start = blank checks := by
  have slots : (Evaluation.ids checks).map Progress.start.outcome? =
      List.replicate checks.length none :=
    map_ids_const fun _ _ => rfl
  exact congrArg₂ (fun slots marks => Tables.mk slots marks [] []) slots
    (marks_ofProgress_ids checks .start)

theorem holds_ofProgress {outcome : Outcome} (bounded : id.index < checks.length)
    (known : progress.outcome? id = some outcome) :
    (ofProgress checks idle progress).Holds id outcome :=
  (getElem?_map_ids _ id bounded).trans (congrArg some known)

theorem isEmpty_ofProgress_iff (bounded : id.index < checks.length) :
    (ofProgress checks idle progress).IsEmpty id ↔ progress.outcome? id = none := by
  unfold IsEmpty ofProgress
  rw [getElem?_map_ids _ id bounded, Option.some.injEq]

theorem isMarked_ofProgress (bounded : id.index < checks.length) (busy : id ∉ idle) :
    (ofProgress checks idle progress).IsMarked id :=
  (getElem?_map_ids _ id bounded).trans (congrArg some (decide_eq_true busy))

theorem isUnmarked_ofProgress (bounded : id.index < checks.length) (isIdle : id ∈ idle) :
    (ofProgress checks idle progress).IsUnmarked id :=
  (getElem?_map_ids _ id bounded).trans (congrArg some (decide_eq_false (not_not_intro isIdle)))

/-- Marking a check takes it out of those that are idle. -/
theorem mark_ofProgress (bounded : id.index < checks.length) (nodup : idle.Nodup) :
    (ofProgress checks idle progress).mark id = ofProgress checks (idle.erase id) progress := by
  have marked : decide (id ∉ idle.erase id) = true := decide_eq_true nodup.not_mem_erase
  have others (part : CheckId) (different : part ≠ id) :
      decide (part ∉ idle) = decide (part ∉ idle.erase id) :=
    decide_eq_decide.mpr (not_congr (List.mem_erase_of_ne different).symm)
  have marks := set_map_ids (fun part => decide (part ∉ idle.erase id)) bounded others
  rw [marked] at marks
  unfold mark ofProgress
  rw [marks]

/-- Storing the outcome of a check makes it known, and idle again. -/
theorem store_ofProgress {outcome : Outcome} (bounded : id.index < checks.length)
    (isIdle : id ∈ idle) (unknown : progress.outcome? id = none) :
    (ofProgress checks (idle.erase id) progress).store id outcome =
      ofProgress checks idle (progress.learn id outcome) := by
  have learned : (progress.learn id outcome).outcome? id = some outcome := by
    rw [Progress.outcome?_learn, unknown, if_pos rfl]
    rfl
  have otherSlots (part : CheckId) (different : part ≠ id) :
      progress.outcome? part = (progress.learn id outcome).outcome? part := by
    rw [Progress.outcome?_learn, if_neg different, Option.or_none]
  have slots := set_map_ids (progress.learn id outcome).outcome? bounded otherSlots
  have unmarked : decide (id ∉ idle) = false := decide_eq_false (not_not_intro isIdle)
  have otherMarks (part : CheckId) (different : part ≠ id) :
      decide (part ∉ idle.erase id) = decide (part ∉ idle) :=
    decide_eq_decide.mpr (not_congr (List.mem_erase_of_ne different))
  have marks := set_map_ids (fun part => decide (part ∉ idle)) bounded otherMarks
  rw [learned] at slots
  rw [unmarked] at marks
  unfold store ofProgress
  rw [slots, marks]
  rfl

end Tables

/-- A visit is an evaluation of one check, and visiting checks in a row is an evaluation of the row.
The induction follows the visits: what is not idle is asked for again, and the parts of a check are
visited while it is not idle. -/
theorem evaluates_visit (root : Path) (probe : Probe)
    (closed : ∀ whole part, Combines checks whole part → part.index < checks.length) :
    (∀ idle progress id, idle.Nodup → id.index < checks.length →
      Evaluates checks root probe (.ofProgress checks idle progress) [id]
        [(visit checks root probe idle progress id).1]
        (.ofProgress checks idle (visit checks root probe idle progress id).2)) ∧
    ∀ idle progress ids, idle.Nodup → (∀ id ∈ ids, id.index < checks.length) →
      Evaluates checks root probe (.ofProgress checks idle progress) ids
        (visitAll checks root probe idle progress ids).1
        (.ofProgress checks idle (visitAll checks root probe idle progress ids).2) := by
  apply visit.mutual_induct checks root probe
  case case1 =>
    intro idle progress id outcome known _ bounded
    rw [visit]
    simp only [known]
    exact .stored (Tables.holds_ofProgress bounded known) .done
  case case2 =>
    intro idle progress id unknown isIdle check found nodup bounded
    rw [visit]
    simp only [unknown, if_pos isIdle, found]
    refine .url ((Tables.isEmpty_ofProgress_iff bounded).mpr unknown)
      (Tables.isUnmarked_ofProgress bounded isIdle) found ?_
    rw [Tables.mark_ofProgress bounded nodup]
    have looked : (Tables.ofProgress checks (idle.erase id) progress).look id =
        .ofProgress checks (idle.erase id) (progress.look id) := rfl
    have stillUnknown : (progress.look id).outcome? id = none := unknown
    rw [looked, Tables.store_ofProgress bounded isIdle stillUnknown]
    exact .done
  case case3 =>
    intro idle progress id unknown isIdle parts found outcomes later visits ih nodup bounded
    have empty : (Tables.ofProgress checks idle progress).IsEmpty id :=
      (Tables.isEmpty_ofProgress_iff bounded).mpr unknown
    have unmarked : (Tables.ofProgress checks idle progress).IsUnmarked id :=
      Tables.isUnmarked_ofProgress bounded isIdle
    have within := ih (nodup.erase id) fun part member => closed id part ⟨parts, found, member⟩
    rw [visit]
    simp only [unknown, if_pos isIdle, found]
    rw [visits] at within ⊢
    rw [← Tables.mark_ofProgress bounded nodup] at within
    have stillUnknown := (Tables.isEmpty_ofProgress_iff bounded).mp (within.isEmpty empty unmarked)
    refine .composite empty unmarked found within ?_
    rw [Tables.store_ofProgress bounded isIdle stillUnknown]
    exact .done
  case case4 =>
    intro idle progress id unknown isIdle reason found nodup bounded
    rw [visit]
    simp only [unknown, if_pos isIdle, found]
    refine .unknown ((Tables.isEmpty_ofProgress_iff bounded).mpr unknown)
      (Tables.isUnmarked_ofProgress bounded isIdle) found ?_
    rw [Tables.mark_ofProgress bounded nodup, Tables.store_ofProgress bounded isIdle unknown]
    exact .done
  case case5 =>
    intro idle progress id _ _ missing _ bounded
    exact absurd bounded (Nat.not_lt.mpr (List.getElem?_eq_none_iff.mp missing))
  case case6 =>
    intro idle progress id unknown busy _ bounded
    rw [visit]
    simp only [unknown, if_neg busy]
    exact .reentered ((Tables.isEmpty_ofProgress_iff bounded).mpr unknown)
      (Tables.isMarked_ofProgress bounded busy) .done
  case case7 =>
    intro idle progress _ _
    rw [visitAll]
    exact .done
  case case8 =>
    intro idle progress id rest outcome later visited outcomes last visits first others nodup
      bounded
    have head := first nodup (bounded id List.mem_cons_self)
    have tail := others nodup fun part member => bounded part (List.mem_cons_of_mem _ member)
    rw [visitAll]
    rw [visited] at head ⊢
    rw [visits] at tail
    simp only [visits]
    exact head.append tail

theorem foldl_visit (idle ids : List CheckId) (progress : Progress) :
    ids.foldl (fun progress id => (visit checks root probe idle progress id).2) progress =
      (visitAll checks root probe idle progress ids).2 := by
  induction ids generalizing progress with
  | nil =>
      rw [visitAll]
      rfl
  | cons id rest ih =>
      rw [visitAll]
      exact ih _

theorem nodup_ids (checks : List Check) : (Evaluation.ids checks).Nodup :=
  List.nodup_range.map fun _ _ same => CheckId.mk.inj same

/-- A run is an evaluation of all checks, from tables that are blank. -/
theorem evaluates_run (root : Path) (probe : Probe)
    (closed : ∀ whole part, Combines checks whole part → part.index < checks.length) :
    ∃ outcomes, Evaluates checks root probe (.blank checks) (Evaluation.ids checks) outcomes
      (.ofProgress checks (Evaluation.ids checks) (Evaluation.run checks root probe)) := by
  have evaluates := (evaluates_visit root probe closed).2 _ .start _ (nodup_ids checks)
    fun _ => mem_ids_iff.mp
  rw [Tables.ofProgress_start, ← foldl_visit] at evaluates
  exact ⟨_, evaluates⟩

end Following

/-- What the tables are when every check has been evaluated. -/
structure Tables.AreComplete (checks : List Check) (tables : Tables) : Prop where
  /-- Every slot has an outcome. -/
  filled : ∀ id, id.index < checks.length → ∃ outcome, tables.Holds id outcome
  /-- No check is marked. -/
  marks : tables.marks = List.replicate checks.length false
  /-- Every slot was written to once. -/
  stored : (tables.stored.map Prod.fst).Perm (Evaluation.ids checks)
  /-- Every slot has what was written to it. -/
  holds : ∀ id outcome, (id, outcome) ∈ tables.stored ↔ tables.Holds id outcome
  /-- Every link was looked up once, and nothing else was. -/
  nodup_probed : tables.probed.Nodup
  mem_probed : ∀ id, id ∈ tables.probed ↔ ∃ check, checks[id.index]? = some (.url check)

/-- An evaluation of all checks completes the tables. -/
theorem Evaluates.areComplete {checks : List Check} {root : Path} {probe : Probe}
    {outcomes : List Outcome} {last : Tables}
    (evaluates :
      Evaluates checks root probe (.blank checks) (Evaluation.ids checks) outcomes last) :
    last.AreComplete checks := by
  have sound := evaluates.sound (.blank checks)
  have filled (id : CheckId) (bounded : id.index < checks.length) :
      ∃ outcome, last.Holds id outcome :=
    evaluates.exists_holds (mem_ids_iff.mpr bounded) (List.getElem?_replicate_of_lt bounded)
  have bounded {id : CheckId} {outcome : Outcome} (holds : last.Holds id outcome) :
      id.index < checks.length := by
    have inside := (List.getElem?_eq_some_iff.mp holds).1
    rwa [evaluates.keeps.length, Tables.blank, List.length_replicate] at inside
  refine ⟨filled, evaluates.keeps.marks, ?_, sound.mem_stored, sound.nodup_probed, ?_⟩
  · refine (List.perm_ext_iff_of_nodup sound.nodup_stored (nodup_ids checks)).mpr fun id => ?_
    rw [mem_ids_iff]
    constructor
    · intro member
      obtain ⟨⟨_, outcome⟩, stored, rfl⟩ := List.mem_map.mp member
      exact bounded ((sound.mem_stored _ outcome).mp stored)
    · intro inside
      obtain ⟨outcome, holds⟩ := filled id inside
      exact List.mem_map.mpr ⟨(id, outcome), (sound.mem_stored id outcome).mpr holds, rfl⟩
  · intro id
    refine (sound.mem_probed id).trans (and_iff_left_of_imp ?_)
    rintro ⟨check, found⟩
    exact filled id (List.getElem?_eq_some_iff.mp found).1

/-- **Every evaluation ends.** On checks that refer to each other in any way, the evaluation of all
checks ends in one way, and it is what a run computes. Then every slot has an outcome, which was
written once, no check is marked, and every link was looked up exactly once. No part of an
evaluation writes over an outcome or leaves a mark behind. -/
theorem evaluation_ends (checks : List Check) (root : Path) (probe : Probe)
    (closed : ∀ whole part, Combines checks whole part → part.index < checks.length) :
    (∃ outcomes last, last.AreComplete checks ∧
      (∀ others other,
        Evaluates checks root probe (.blank checks) (Evaluation.ids checks) others other ↔
          others = outcomes ∧ other = last) ∧
      last.slots = (Evaluation.ids checks).map (Evaluation.run checks root probe).outcome? ∧
      last.stored = (Evaluation.run checks root probe).known ∧
      last.probed = (Evaluation.run checks root probe).probed) ∧
    ∀ before ids outcomes after, Evaluates checks root probe before ids outcomes after →
      before.Keeps after := by
  obtain ⟨outcomes, evaluates⟩ := evaluates_run root probe closed
  refine ⟨⟨outcomes, _, evaluates.areComplete, ?_, rfl, rfl, rfl⟩, ?_⟩
  · intro others other
    constructor
    · intro another
      exact another.unique evaluates
    · rintro ⟨rfl, rfl⟩
      exact evaluates
  · intro before ids outcomes after part
    exact part.keeps

/-- Two circles of references with a check in common, one check that also refers to itself, and a
link that two of them share. -/
def entangled : List Check :=
  [.composite [⟨0⟩, ⟨1⟩, ⟨3⟩], .composite [⟨2⟩, ⟨0⟩, ⟨3⟩, ⟨3⟩], .composite [⟨1⟩],
    .url ⟨⟨"a.md"⟩, "b.md"⟩]

theorem closed_entangled (whole part : CheckId) (combines : Combines entangled whole part) :
    part.index < entangled.length := by
  obtain ⟨parts, found, member⟩ := combines
  have all : ∀ check ∈ entangled, ∀ id ∈ check.references, id.index < entangled.length := by decide
  exact all _ (List.mem_of_getElem? found) part member

theorem evaluation_ends_on_entangled :
    (∀ whole part, Combines entangled whole part → part.index < entangled.length) ∧
      (∃ outcomes last, last.AreComplete entangled ∧
        (∀ others other, Evaluates entangled ⟨"."⟩ (fun _ => .passed) (.blank entangled)
          (Evaluation.ids entangled) others other ↔ others = outcomes ∧ other = last) ∧
        last.slots = (Evaluation.ids entangled).map
          (Evaluation.run entangled ⟨"."⟩ fun _ => .passed).outcome? ∧
        last.stored = (Evaluation.run entangled ⟨"."⟩ fun _ => .passed).known ∧
        last.probed = (Evaluation.run entangled ⟨"."⟩ fun _ => .passed).probed) ∧
      ∀ before ids outcomes after,
        Evaluates entangled ⟨"."⟩ (fun _ => .passed) before ids outcomes after →
          before.Keeps after :=
  ⟨closed_entangled, evaluation_ends entangled ⟨"."⟩ (fun _ => .passed) closed_entangled⟩

end DocMarkers
