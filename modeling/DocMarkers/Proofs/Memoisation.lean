import DocMarkers.Proofs.CircleBreaking
import DocMarkers.Proofs.Meaning

/-! # Evaluation remembers what checks mean

An evaluation visits the checks one after the other, remembers every outcome, and does not visit a
check again while its own visit is under way. On checks without circles none of this shows: every
remembered outcome is what its check means, every link has been looked up once and nothing else has,
and no check has been asked for during its own visit (`Progress.Sound`).

A visit keeps this invariant as long as everything that the check leads to is idle
(`visit_answered`), which a reference passes on to its parts, since no part leads back. A run over
all checks keeps it as well and remembers every check (`sound_run`).
-/

namespace DocMarkers

open Relation

/-- What is remembered is what the checks mean, and the record of look-ups fits it. -/
structure Progress.Sound (checks : List Check) (root : Path) (probe : Probe)
    (progress : Progress) : Prop where
  known : ∀ id outcome, progress.outcome? id = some outcome → Means checks root probe id outcome
  nodup_probed : progress.probed.Nodup
  mem_probed : ∀ id, id ∈ progress.probed ↔
    (∃ check, checks[id.index]? = some (.url check)) ∧ (progress.outcome? id).isSome
  reentered : progress.reentered = []

/-- Everything that a check leads to, itself included, is idle and has a place. -/
def Idle (checks : List Check) (idle : List CheckId) (id : CheckId) : Prop :=
  ∀ part, ReflTransGen (Combines checks) id part → part ∈ idle ∧ part.index < checks.length

/-- What a visit of `id` comes to: the meaning of the check, remembered with all that was
remembered before. -/
structure Answered (checks : List Check) (root : Path) (probe : Probe) (progress : Progress)
    (id : CheckId) (result : Outcome × Progress) : Prop where
  means : Means checks root probe id result.1
  sound : result.2.Sound checks root probe
  remembered : (result.2.outcome? id).isSome
  keeps : ∀ other, (progress.outcome? other).isSome → (result.2.outcome? other).isSome

namespace Progress

theorem outcome?_learn (progress : Progress) (id other : CheckId) (outcome : Outcome) :
    (progress.learn id outcome).outcome? other =
      (progress.outcome? other).or (if other = id then some outcome else none) := by
  unfold learn outcome?
  simp only [List.lookup_append, List.lookup_cons, List.lookup_nil]
  by_cases same : other = id
  · subst same
    simp
  · rw [if_neg same, beq_eq_false_iff_ne.mpr same]

theorem isSome_learn_iff {progress : Progress} {id other : CheckId} {outcome : Outcome} :
    ((progress.learn id outcome).outcome? other).isSome ↔
      (progress.outcome? other).isSome ∨ other = id := by
  rw [outcome?_learn]
  by_cases same : other = id
  · simp [same]
  · simp [same]

namespace Sound

variable {checks : List Check} {root : Path} {probe : Probe} {progress : Progress} {id : CheckId}

theorem start : Progress.start.Sound checks root probe where
  known := by
    intro id outcome found
    cases found
  nodup_probed := .nil
  mem_probed := by
    intro id
    simp [Progress.start, outcome?]
  reentered := rfl

theorem known_learn {outcome : Outcome} (sound : progress.Sound checks root probe)
    (means : Means checks root probe id outcome) (other : CheckId) (found : Outcome)
    (learned : (progress.learn id outcome).outcome? other = some found) :
    Means checks root probe other found := by
  rw [outcome?_learn, Option.or_eq_some_iff] at learned
  rcases learned with old | ⟨-, new⟩
  · exact sound.known other found old
  · obtain ⟨rfl, same⟩ := Option.ite_none_right_eq_some.mp new
    rw [← Option.some.inj same]
    exact means

/-- Learning about a check that is no link keeps the invariant. -/
theorem learn {outcome : Outcome} (sound : progress.Sound checks root probe)
    (means : Means checks root probe id outcome)
    (noLink : ∀ check, checks[id.index]? ≠ some (.url check)) :
    (progress.learn id outcome).Sound checks root probe where
  known := sound.known_learn means
  nodup_probed := sound.nodup_probed
  mem_probed := by
    intro other
    rw [isSome_learn_iff]
    refine (sound.mem_probed other).trans (and_congr_right ?_)
    rintro ⟨check, found⟩
    constructor
    · exact .inl
    · rintro (old | rfl)
      · exact old
      · exact absurd found (noLink check)
  reentered := sound.reentered

/-- Looking up a link for the first time and learning its answer keeps the invariant. -/
theorem look {check : UrlCheck} (sound : progress.Sound checks root probe)
    (link : checks[id.index]? = some (.url check)) (new : progress.outcome? id = none) :
    ((progress.look id).learn id (probe (check.target root))).Sound checks root probe where
  known := by
    intro other found learned
    exact sound.known_learn (.url link) other found learned
  nodup_probed := by
    refine List.nodup_append.mpr ⟨sound.nodup_probed, List.nodup_singleton id, ?_⟩
    rintro old member _ isNew rfl
    rw [List.mem_singleton.mp isNew] at member
    have known := ((sound.mem_probed id).mp member).2
    rw [new] at known
    cases known
  mem_probed := by
    intro other
    have rows : ((progress.look id).learn id (probe (check.target root))).probed =
        progress.probed ++ [id] := rfl
    rw [rows, isSome_learn_iff, List.mem_append, List.mem_singleton, sound.mem_probed]
    constructor
    · rintro (⟨isLink, known⟩ | rfl)
      · exact ⟨isLink, .inl known⟩
      · exact ⟨⟨check, link⟩, .inr rfl⟩
    · rintro ⟨isLink, known | rfl⟩
      · exact .inl ⟨isLink, known⟩
      · exact .inr rfl
  reentered := sound.reentered

end Sound

end Progress

section Visits

variable {checks : List Check} {root : Path} {probe : Probe}

/-- A part of a check is idle while the check is visited, since nothing leads back to the check. -/
theorem Idle.part {idle : List CheckId} {id part : CheckId} (free : Idle checks idle id)
    (acyclic : ∀ id, ¬ TransGen (Combines checks) id id) (combines : Combines checks id part) :
    Idle checks (idle.erase id) part := by
  intro other leads
  obtain ⟨inside, bounded⟩ := free other (.head combines leads)
  refine ⟨(List.mem_erase_of_ne ?_).mpr inside, bounded⟩
  rintro rfl
  exact acyclic other (.head' combines leads)

/-- Outcomes that checks mean are given by a function of the checks. -/
theorem exists_outcomes_of_forall₂ {parts : List CheckId} {outcomes : List Outcome}
    (means : List.Forall₂ (Means checks root probe) parts outcomes) :
    ∃ outcomeOf : CheckId → Outcome,
      (∀ part ∈ parts, Means checks root probe part (outcomeOf part)) ∧
        parts.map outcomeOf = outcomes := by
  induction means with
  | nil => exact ⟨fun _ => default, by simp, rfl⟩
  | @cons part outcome parts outcomes first _ ih =>
      obtain ⟨outcomeOf, rest, same⟩ := ih
      refine ⟨Function.update outcomeOf part outcome, ?_, ?_⟩
      · intro other member
        by_cases equal : other = part
        · subst equal
          rw [Function.update_self]
          exact first
        · rw [Function.update_of_ne equal]
          exact rest other ((List.mem_cons.mp member).resolve_left equal)
      · rw [List.map_cons, Function.update_self, ← same]
        refine congrArg (outcome :: ·) (List.map_congr_left ?_)
        intro other member
        by_cases equal : other = part
        · subst equal
          rw [Function.update_self]
          exact first.unique (rest other member)
        · rw [Function.update_of_ne equal]

/-- Combining what the parts of a composite check mean gives what the check means. -/
theorem Means.combine {id : CheckId} {parts : List CheckId} {outcomes : List Outcome}
    (found : checks[id.index]? = some (.composite parts))
    (inner : List.Forall₂ (Means checks root probe) parts outcomes) :
    Means checks root probe id (Outcome.combine outcomes) := by
  obtain ⟨outcomeOf, partMeans, rfl⟩ := exists_outcomes_of_forall₂ inner
  exact .composite found partMeans (verdict_combine _)

/-- A visit may end with learning what the check means. -/
theorem Answered.of_learn {progress later : Progress} {id : CheckId} {outcome : Outcome}
    (means : Means checks root probe id outcome)
    (sound : (later.learn id outcome).Sound checks root probe)
    (kept : ∀ other, (progress.outcome? other).isSome → (later.outcome? other).isSome) :
    Answered checks root probe progress id (outcome, later.learn id outcome) where
  means := means
  sound := sound
  remembered := Progress.isSome_learn_iff.mpr (.inr rfl)
  keeps := fun other old => Progress.isSome_learn_iff.mpr (.inl (kept other old))

/-- If each visit keeps the invariant, so does a row of visits. -/
theorem visitAll_answered {idle : List CheckId}
    (step : ∀ progress id, Idle checks idle id → progress.Sound checks root probe →
      Answered checks root probe progress id (visit checks root probe idle progress id)) :
    ∀ (ids : List CheckId) (progress : Progress), (∀ id ∈ ids, Idle checks idle id) →
      progress.Sound checks root probe →
        List.Forall₂ (Means checks root probe) ids
          (visitAll checks root probe idle progress ids).1 ∧
        (visitAll checks root probe idle progress ids).2.Sound checks root probe ∧
        ∀ other, (progress.outcome? other).isSome →
          ((visitAll checks root probe idle progress ids).2.outcome? other).isSome := by
  intro ids
  induction ids with
  | nil =>
      intro progress _ sound
      rw [visitAll]
      exact ⟨.nil, sound, fun _ known => known⟩
  | cons id rest ih =>
      intro progress free sound
      have first := step progress id (free id List.mem_cons_self) sound
      obtain ⟨means, later, keeps⟩ :=
        ih _ (fun other member => free other (List.mem_cons_of_mem _ member)) first.sound
      rw [visitAll]
      refine ⟨.cons first.means means, later, ?_⟩
      exact fun other known => keeps other (first.keeps other known)

/-- A visit keeps the invariant and answers with the meaning of the check. The induction is on the
number of idle checks, which a visit lowers for the visits of its parts. -/
theorem visit_answered (acyclic : ∀ id, ¬ TransGen (Combines checks) id id) :
    ∀ (count : Nat) (idle : List CheckId), idle.length = count →
      ∀ progress id, Idle checks idle id → progress.Sound checks root probe →
        Answered checks root probe progress id (visit checks root probe idle progress id) := by
  intro count
  induction count with
  | zero =>
      intro idle empty progress id free _
      have inside := (free id .refl).1
      rw [List.length_eq_zero_iff.mp empty] at inside
      cases inside
  | succ count ih =>
      intro idle length progress id free sound
      obtain ⟨inside, bounded⟩ := free id .refl
      rw [visit]
      cases known : progress.outcome? id with
      | some outcome =>
          exact ⟨sound.known id outcome known, sound, by simp [known], fun _ old => old⟩
      | none =>
          simp only [if_pos inside]
          cases found : checks[id.index]? with
          | none => exact absurd bounded (Nat.not_lt.mpr (List.getElem?_eq_none_iff.mp found))
          | some check =>
              cases check with
              | url link =>
                  exact .of_learn (.url found) (sound.look found known) fun _ old => old
              | unknown reason =>
                  have means : Means checks root probe id (.indeterminate reason.message) :=
                    .unknown found
                  exact .of_learn means (sound.learn means (by simp [found])) fun _ old => old
              | composite parts =>
                  have shorter : (idle.erase id).length = count := by
                    rw [List.length_erase_of_mem inside, length]
                    rfl
                  have partsFree : ∀ part ∈ parts, Idle checks (idle.erase id) part :=
                    fun part member => free.part acyclic ⟨parts, found, member⟩
                  obtain ⟨inner, later, kept⟩ :=
                    visitAll_answered (ih _ shorter) parts progress partsFree sound
                  have means := Means.combine found inner
                  exact .of_learn means (later.learn means (by simp [found])) kept

theorem Means.bounded {id : CheckId} {outcome : Outcome}
    (means : Means checks root probe id outcome) : id.index < checks.length := by
  cases means with
  | url found => exact (List.getElem?_eq_some_iff.mp found).1
  | unknown found => exact (List.getElem?_eq_some_iff.mp found).1
  | composite found _ _ => exact (List.getElem?_eq_some_iff.mp found).1

theorem mem_ids_iff {id : CheckId} : id ∈ Evaluation.ids checks ↔ id.index < checks.length := by
  unfold Evaluation.ids
  constructor
  · intro member
    obtain ⟨place, inside, rfl⟩ := List.mem_map.mp member
    exact List.mem_range.mp inside
  · intro bounded
    exact List.mem_map.mpr ⟨id.index, List.mem_range.mpr bounded, rfl⟩

/-- At the start of each visit of a run every check is idle. -/
theorem idle_ids (closed : ∀ whole part, Combines checks whole part → part.index < checks.length)
    {id : CheckId} (member : id ∈ Evaluation.ids checks) :
    Idle checks (Evaluation.ids checks) id := by
  intro part leads
  have bounded : part.index < checks.length := by
    cases leads with
    | refl => exact mem_ids_iff.mp member
    | tail _ last => exact closed _ _ last
  exact ⟨mem_ids_iff.mpr bounded, bounded⟩

/-- A run over some checks keeps the invariant and remembers all of them. -/
theorem sound_foldl_visit (acyclic : ∀ id, ¬ TransGen (Combines checks) id id)
    {idle : List CheckId} :
    ∀ (ids : List CheckId) (progress : Progress), (∀ id ∈ ids, Idle checks idle id) →
      progress.Sound checks root probe →
        let last := ids.foldl
          (fun progress id => (visit checks root probe idle progress id).2) progress
        last.Sound checks root probe ∧ (∀ id ∈ ids, (last.outcome? id).isSome) ∧
          ∀ other, (progress.outcome? other).isSome → (last.outcome? other).isSome := by
  intro ids
  induction ids with
  | nil =>
      intro progress _ sound
      exact ⟨sound, by simp, fun _ known => known⟩
  | cons id rest ih =>
      intro progress free sound
      have first := visit_answered acyclic _ idle rfl progress id (free id List.mem_cons_self) sound
      obtain ⟨later, remembered, keeps⟩ :=
        ih _ (fun other member => free other (List.mem_cons_of_mem _ member)) first.sound
      refine ⟨later, ?_, fun other known => keeps other (first.keeps other known)⟩
      intro other member
      rcases List.mem_cons.mp member with rfl | member
      · exact keeps other first.remembered
      · exact remembered other member

/-- A run over all checks keeps the invariant and remembers every check. -/
theorem sound_run (acyclic : ∀ id, ¬ TransGen (Combines checks) id id)
    (closed : ∀ whole part, Combines checks whole part → part.index < checks.length) :
    (Evaluation.run checks root probe).Sound checks root probe ∧
      ∀ id, id.index < checks.length →
        ((Evaluation.run checks root probe).outcome? id).isSome := by
  obtain ⟨sound, remembered, -⟩ :=
    sound_foldl_visit acyclic (Evaluation.ids checks) .start (fun _ => idle_ids closed) .start
  exact ⟨sound, fun id bounded => remembered id (mem_ids_iff.mpr bounded)⟩

end Visits

section Resolved

variable (files : Path.Map (List Marker)) (root : Path) (probe : Probe)

theorem bounded_of_mem_bound {files : Path.Map (List Marker)} {occurrence : Occurrence}
    {id : CheckId} (row : (occurrence, id) ∈ (resolve files).bound) :
    id.index < (resolve files).checks.length := by
  obtain ⟨place, -, rfl⟩ := Resolution.mem_bound_iff.mp row
  exact Resolution.index_checkId_lt (Slot.ofPlace_mem_all place)

/-- The parts of a resolved composite check have a place among the checks. -/
theorem bounded_of_combines {whole part : CheckId}
    (combines : Combines (resolve files).checks whole part) :
    part.index < (resolve files).checks.length := by
  obtain ⟨parts, found, member⟩ := combines
  obtain ⟨occurrence, bound, wiredAt, -⟩ := exists_answers_of_composite found
  obtain ⟨name, named, rfl⟩ := bound.combines_iff.mp ⟨parts, wiredAt, member⟩
  obtain ⟨place, rfl, -⟩ := bound.exists_place
  exact Resolution.index_checkId_lt (Slot.ofReference_mem_all named)

theorem probed_ofResolution (resolution : Resolution) :
    (Evaluation.ofResolution resolution root probe).probed =
      (Evaluation.run resolution.checks root probe).probed :=
  rfl

theorem sound_run_resolve :
    (Evaluation.run (resolve files).checks root probe).Sound (resolve files).checks root probe ∧
      ∀ id, id.index < (resolve files).checks.length →
        ((Evaluation.run (resolve files).checks root probe).outcome? id).isSome :=
  sound_run (acyclic_resolve files) fun _ _ => bounded_of_combines files

/-- The outcomes of an evaluation are what the checks mean. -/
theorem getElem?_outcomes_iff {id : CheckId} {outcome : Outcome} :
    (Evaluation.ofResolution (resolve files) root probe).outcomes[id.index]? = some outcome ↔
      Means (resolve files).checks root probe id outcome := by
  obtain ⟨sound, remembered⟩ := sound_run_resolve files root probe
  have row (bounded : id.index < (resolve files).checks.length) :
      (Evaluation.ofResolution (resolve files) root probe).outcomes[id.index]? =
        (Evaluation.run (resolve files).checks root probe).outcome? id := by
    obtain ⟨found, known⟩ := Option.isSome_iff_exists.mp (remembered id bounded)
    simp only [Evaluation.ofResolution, Evaluation.ids, List.map_map, List.getElem?_map,
      List.getElem?_range bounded, Option.map_some, Function.comp_apply, known, Option.getD_some]
  constructor
  · intro found
    have inside := (List.getElem?_eq_some_iff.mp found).1
    have bounded : id.index < (resolve files).checks.length := by
      simpa [Evaluation.ofResolution, Evaluation.ids] using inside
    exact sound.known id outcome ((row bounded).symm.trans found)
  · intro means
    obtain ⟨found, known⟩ := Option.isSome_iff_exists.mp (remembered id means.bounded)
    rw [row means.bounded, known, (sound.known id found known).unique means]

/-- **Evaluation.** Every check of a project gets the one outcome that it means. Every link is
looked up exactly once and nothing else is, whatever refers to it; no check is asked for while its
own evaluation is under way, and none is left without an outcome. -/
theorem evaluation_exact :
    (Evaluation.ofResolution (resolve files) root probe).outcomes.length =
        (resolve files).checks.length ∧
      (∀ id outcome,
        (Evaluation.ofResolution (resolve files) root probe).outcomes[id.index]? = some outcome ↔
          Means (resolve files).checks root probe id outcome) ∧
      (Evaluation.ofResolution (resolve files) root probe).probed.Nodup ∧
      (∀ id, id ∈ (Evaluation.ofResolution (resolve files) root probe).probed ↔
        ∃ check, (resolve files).checks[id.index]? = some (.url check)) ∧
      (Evaluation.run (resolve files).checks root probe).reentered = [] ∧
      ∀ id, id.index < (resolve files).checks.length →
        ((Evaluation.run (resolve files).checks root probe).outcome? id).isSome := by
  obtain ⟨sound, remembered⟩ := sound_run_resolve files root probe
  rw [probed_ofResolution]
  refine ⟨?_, ?_, sound.nodup_probed, ?_, sound.reentered, remembered⟩
  · simp [Evaluation.ofResolution, Evaluation.ids]
  · intro id outcome
    exact getElem?_outcomes_iff files root probe
  · intro id
    refine (sound.mem_probed id).trans (and_iff_left_of_imp ?_)
    rintro ⟨check, found⟩
    exact remembered id (List.getElem?_eq_some_iff.mp found).1

end Resolved

end DocMarkers
