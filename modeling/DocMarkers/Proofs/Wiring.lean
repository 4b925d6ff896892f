import DocMarkers.Proofs.Circles
import DocMarkers.Proofs.ResolutionOrder
import DocMarkers.Resolution.Resolve
import Mathlib.Data.List.Forall2

/-! # The wiring of composite checks

The check of a composite occurrence has one part for each id of its marker, in the same order. The
part is the check of the first occurrence that declares the id, wherever that occurrence stands, or
a check that says that the id is missing, exactly when no occurrence declares it (`Answers`,
`Slot.forall₂_answers`).

References are wired before circles are looked at (`Slot.wired`), and taking circles out changes
neither the parts of a composite check that is left nor a check for a missing id.
-/

namespace DocMarkers

namespace Slot

variable (occurrences : List Occurrence)

/-- The checks as single references decide them, with their circles. -/
def wired : List Check :=
  (all occurrences).map (check occurrences (all occurrences))

/-- The id of the check of the occurrence at a place. -/
def idAt (place : Fin occurrences.length) : CheckId :=
  checkId (all occurrences) (ofPlace occurrences place)

variable {occurrences}

theorem ofPlace_mem_all (place : Fin occurrences.length) :
    ofPlace occurrences place ∈ all occurrences := by
  refine mem_distinct.mpr (List.mem_append_left _ ?_)
  exact List.mem_map.mpr ⟨place, List.mem_finRange place, rfl⟩

theorem ofReference_mem_all {place : Fin occurrences.length} {name : String}
    (named : name ∈ (occurrences.get place).marker.ids) :
    ofReference occurrences name ∈ all occurrences := by
  refine mem_distinct.mpr (List.mem_append_right _ ?_)
  exact List.mem_flatMap.mpr
    ⟨occurrences.get place, List.get_mem _ place, List.mem_map.mpr ⟨name, named, rfl⟩⟩

/-- Different slots have different checks. -/
theorem checkId_injective {slot other : Slot occurrences.length} (listed : slot ∈ all occurrences)
    (same : checkId (all occurrences) slot = checkId (all occurrences) other) : slot = other :=
  (List.idxOf_inj listed).mp (congrArg CheckId.index same)

/-- The check of a slot stands at the slot's id. -/
theorem getElem?_wired {slot : Slot occurrences.length} (listed : slot ∈ all occurrences) :
    (wired occurrences)[(checkId (all occurrences) slot).index]? =
      some (check occurrences (all occurrences) slot) := by
  have found : (all occurrences)[(all occurrences).idxOf slot]? = some slot :=
    List.getElem?_idxOf listed
  unfold wired checkId
  rw [List.getElem?_map, found, Option.map_some]

/-- Every check is the check of a slot. -/
theorem exists_slot_of_getElem?_wired {id : CheckId} {found : Check}
    (stands : (wired occurrences)[id.index]? = some found) :
    ∃ slot ∈ all occurrences, id = checkId (all occurrences) slot ∧
      found = check occurrences (all occurrences) slot := by
  unfold wired at stands
  rw [List.getElem?_map] at stands
  obtain ⟨slot, inside, rfl⟩ := Option.map_eq_some_iff.mp stands
  obtain ⟨bounded, rfl⟩ := List.getElem?_eq_some_iff.mp inside
  refine ⟨_, List.getElem_mem bounded, ?_, rfl⟩
  have nodup : (all occurrences).Nodup := nodup_distinct _
  unfold checkId
  rw [nodup.idxOf_getElem]

theorem ofPlace_of_composite {place : Fin occurrences.length}
    (composite : (occurrences.get place).marker.kind = .composite) :
    ofPlace occurrences place = own place := by
  unfold ofPlace
  simp only [composite]

theorem ofReference_of_declared {name : String} {place : Fin occurrences.length}
    (found : Occurrence.declarer? occurrences name = some place) :
    ofReference occurrences name = ofPlace occurrences place := by
  unfold ofReference
  simp only [found]

theorem ofPlace_ne_missing (place : Fin occurrences.length) (name : String) :
    ofPlace occurrences place ≠ missing name := by
  intro same
  unfold ofPlace at same
  cases kind : (occurrences.get place).marker.kind with
  | composite => simp only [kind, reduceCtorEq] at same
  | primitive =>
      simp only [kind] at same
      split at same <;> cases same

theorem ofReference_eq_missing_iff {name : String} :
    ofReference occurrences name = missing name ↔ Occurrence.declarer? occurrences name = none := by
  cases found : Occurrence.declarer? occurrences name with
  | none => simp only [ofReference, found]
  | some place =>
      rw [ofReference_of_declared found]
      simp only [ofPlace_ne_missing, reduceCtorEq]

/-- What the check of an occurrence's own slot is. -/
theorem check_own_cases (slots : List (Slot occurrences.length)) (place : Fin occurrences.length) :
    ((occurrences.get place).marker.kind = .primitive ∧
      ∃ url, check occurrences slots (own place) = .url url) ∨
    ((occurrences.get place).marker.kind = .composite ∧
      check occurrences slots (own place) =
        .composite ((occurrences.get place).marker.ids.map fun name =>
          checkId slots (ofReference occurrences name))) := by
  simp only [check, Marker.kind, Marker.ids]
  cases (occurrences.get place).marker.claim with
  | primitive argument => exact .inl ⟨rfl, _, rfl⟩
  | composite argument ids nonempty => exact .inr ⟨rfl, rfl⟩

/-- A slot has a composite check when it belongs to a composite occurrence; the parts are what the
ids of its marker refer to. -/
theorem check_eq_composite_iff {slots : List (Slot occurrences.length)}
    {slot : Slot occurrences.length} {parts : List CheckId} :
    check occurrences slots slot = .composite parts ↔
      ∃ place, slot = own place ∧ (occurrences.get place).marker.kind = .composite ∧
        parts = (occurrences.get place).marker.ids.map fun name =>
          checkId slots (ofReference occurrences name) := by
  constructor
  · intro same
    cases slot with
    | own place =>
        rcases check_own_cases slots place with ⟨-, url, isUrl⟩ | ⟨composite, wired⟩
        · rw [isUrl] at same
          cases same
        · rw [wired] at same
          exact ⟨place, rfl, composite, (Check.composite.inj same).symm⟩
    | unrecognized test => cases same
    | missing name => cases same
  · rintro ⟨place, rfl, composite, rfl⟩
    rcases check_own_cases slots place with ⟨primitive, -⟩ | ⟨-, wired⟩
    · rw [composite] at primitive
      cases primitive
    · exact wired

theorem check_eq_missing_iff {slots : List (Slot occurrences.length)}
    {slot : Slot occurrences.length} {name : String} :
    check occurrences slots slot = .unknown (.missingReference name) ↔ slot = missing name := by
  constructor
  · intro same
    cases slot with
    | own place =>
        rcases check_own_cases slots place with ⟨-, url, isUrl⟩ | ⟨-, wired⟩
        · rw [isUrl] at same
          cases same
        · rw [wired] at same
          cases same
    | unrecognized test => cases same
    | missing other => cases same; rfl
  · rintro rfl
    rfl

end Slot

namespace Resolution

variable {occurrences : List Occurrence}

theorem checks_ofOccurrences :
    (ofOccurrences occurrences).checks =
      breakCycles (Slot.wired occurrences) (DocMarkers.cycles (Slot.wired occurrences)) :=
  rfl

theorem cycles_ofOccurrences :
    (ofOccurrences occurrences).cycles = DocMarkers.cycles (Slot.wired occurrences) :=
  rfl

theorem map_fst_bound (occurrences : List Occurrence) :
    (ofOccurrences occurrences).bound.map Prod.fst = occurrences := by
  unfold ofOccurrences
  apply List.map_fst_zip
  simp [Slot.ofOccurrences]

/-- Each occurrence is bound to the check of its slot. -/
theorem mem_bound_iff {occurrence : Occurrence} {id : CheckId} :
    (occurrence, id) ∈ (ofOccurrences occurrences).bound ↔
      ∃ place, occurrences.get place = occurrence ∧ Slot.idAt occurrences place = id := by
  have rows : (ofOccurrences occurrences).bound =
      (List.finRange occurrences.length).map fun place =>
        (occurrences.get place, Slot.idAt occurrences place) := by
    unfold ofOccurrences Slot.ofOccurrences
    simp only [List.map_map]
    conv => lhs; arg 1; rw [← List.map_get_finRange occurrences]
    exact List.zip_map'
  rw [rows]
  simp only [List.mem_map, List.mem_finRange, true_and, Prod.mk.injEq]

/-- Every listed slot has a check. -/
theorem index_checkId_lt {slot : Slot occurrences.length} (listed : slot ∈ Slot.all occurrences) :
    (Slot.checkId (Slot.all occurrences) slot).index <
      (ofOccurrences occurrences).checks.length := by
  have wired := (List.getElem?_eq_some_iff.mp (Slot.getElem?_wired listed)).1
  rw [checks_ofOccurrences, breakCycles, List.length_map, List.length_zipIdx]
  exact wired

/-- A check that is on no circle is what single references make of it. -/
theorem getElem?_checks_of_not_onCircle {id : CheckId}
    (outside : ¬ OnCircle (Slot.wired occurrences) id) :
    (ofOccurrences occurrences).checks[id.index]? = (Slot.wired occurrences)[id.index]? :=
  getElem?_breakCycles_of_not_onCircle outside

/-- A check that is on a circle is unknown. -/
theorem getElem?_checks_of_onCircle {id : CheckId} (circle : OnCircle (Slot.wired occurrences) id) :
    (ofOccurrences occurrences).checks[id.index]? = some (.unknown .cyclicReference) :=
  getElem?_breakCycles_of_onCircle circle

/-- Apart from the checks on circles, what is no composite check stays what it is. -/
theorem getElem?_checks_eq_some_iff {id : CheckId} {check : Check}
    (leaf : check.isComposite = false) (sound : check ≠ .unknown .cyclicReference) :
    (ofOccurrences occurrences).checks[id.index]? = some check ↔
      (Slot.wired occurrences)[id.index]? = some check := by
  constructor
  · intro found
    have outside : ¬ OnCircle (Slot.wired occurrences) id := by
      intro circle
      rw [getElem?_checks_of_onCircle circle] at found
      exact sound (Option.some.inj found).symm
    exact (getElem?_checks_of_not_onCircle outside).symm.trans found
  · intro found
    have outside : ¬ OnCircle (Slot.wired occurrences) id := by
      intro circle
      obtain ⟨parts, composite⟩ := circle.isComposite
      rw [found] at composite
      obtain rfl := Option.some.inj composite
      cases leaf
    exact (getElem?_checks_of_not_onCircle outside).trans found

end Resolution

/-- `part` is the check that a reference to the id `name` means in a project. -/
structure Answers (files : Path.Map (List Marker)) (name : String) (part : CheckId) : Prop where
  /-- It is bound to the first occurrence that declares the id, if there is one. -/
  declared : (∃ occurrence ∈ Occurrence.ofFiles files, occurrence.marker.id = some name) →
    ∃ first, Occurrence.IsFirstDeclarer files name first ∧ (first, part) ∈ (resolve files).bound
  /-- It says that the id is missing exactly when no occurrence declares it. -/
  missing : (∀ occurrence ∈ Occurrence.ofFiles files, occurrence.marker.id ≠ some name) ↔
    (resolve files).checks[part.index]? = some (.unknown (.missingReference name))

namespace Slot

variable {files : Path.Map (List Marker)}

/-- The slot that a reference means has the check that answers it. -/
theorem answers_ofReference {name : String}
    (listed : ofReference (Occurrence.ofFiles files) name ∈ all (Occurrence.ofFiles files)) :
    Answers files name
      (checkId (all (Occurrence.ofFiles files)) (ofReference (Occurrence.ofFiles files) name)) := by
  have wiredAt := getElem?_wired listed
  constructor
  · rintro ⟨occurrence, member, declares⟩
    cases found : Occurrence.declarer? (Occurrence.ofFiles files) name with
    | none => exact absurd declares (Occurrence.declarer?_eq_none_iff.mp found _ member)
    | some place =>
        refine ⟨(Occurrence.ofFiles files).get place,
          Occurrence.isFirstDeclarer_iff.mpr ⟨place, found, rfl⟩,
          Resolution.mem_bound_iff.mpr ⟨place, rfl, ?_⟩⟩
        rw [ofReference_of_declared found]
        rfl
  · have different : Check.unknown (.missingReference name) ≠ .unknown .cyclicReference := by simp
    unfold resolve
    rw [Resolution.getElem?_checks_eq_some_iff rfl different, wiredAt, Option.some.injEq,
      check_eq_missing_iff, ofReference_eq_missing_iff]
    exact Occurrence.declarer?_eq_none_iff.symm

/-- The check of a composite occurrence is wired to what answers the ids of its marker. -/
theorem forall₂_answers {occurrence : Occurrence} {id : CheckId}
    (bound : (occurrence, id) ∈ (resolve files).bound)
    (composite : occurrence.marker.kind = .composite) :
    ∃ parts, (wired (Occurrence.ofFiles files))[id.index]? = some (.composite parts) ∧
      List.Forall₂ (Answers files) occurrence.marker.ids parts := by
  obtain ⟨place, rfl, rfl⟩ := Resolution.mem_bound_iff.mp bound
  have own := ofPlace_of_composite composite
  have wiredAt := getElem?_wired (ofPlace_mem_all place)
  rw [check_eq_composite_iff.mpr ⟨place, own, composite, rfl⟩] at wiredAt
  refine ⟨_, wiredAt, ?_⟩
  rw [List.forall₂_map_right_iff, List.forall₂_same]
  intro name named
  exact answers_ofReference (ofReference_mem_all named)

end Slot

/-- **Wiring.** Unless it lies on a circle, the check of a composite occurrence has one part for
each id of its marker, in the same order: the check of the first occurrence that declares the id,
or, exactly when there is none, a check that says that the id is missing. -/
theorem composite_wired (files : Path.Map (List Marker)) {occurrence : Occurrence} {id : CheckId}
    (bound : (occurrence, id) ∈ (resolve files).bound)
    (composite : occurrence.marker.kind = .composite)
    (kept : (resolve files).checks[id.index]? ≠ some (.unknown .cyclicReference)) :
    ∃ parts, (resolve files).checks[id.index]? = some (.composite parts) ∧
      parts.length = occurrence.marker.ids.length ∧
      ∀ (place : Nat) (name : String) (part : CheckId), occurrence.marker.ids[place]? = some name →
        parts[place]? = some part → Answers files name part := by
  obtain ⟨parts, wiredAt, answers⟩ := Slot.forall₂_answers bound composite
  have outside : ¬ OnCircle (Slot.wired (Occurrence.ofFiles files)) id :=
    fun circle => kept (Resolution.getElem?_checks_of_onCircle circle)
  refine ⟨parts, (Resolution.getElem?_checks_of_not_onCircle outside).trans wiredAt,
    answers.length_eq.symm, ?_⟩
  intro place name part named found
  obtain ⟨nameInside, rfl⟩ := List.getElem?_eq_some_iff.mp named
  obtain ⟨partInside, rfl⟩ := List.getElem?_eq_some_iff.mp found
  exact answers.get nameInside partInside

/-- A project whose first file refers to ids of its second file: to one that is declared there
twice, to one that follows, and to one that nobody declares. -/
def referringAcrossFiles : Path.Map (List Marker) where
  entries := [
    (⟨"a.md"⟩, [
      ⟨"!DACDOC ids=late,twice,none,twice!", none, Marker.defaultTestId,
        .composite none ["late", "twice", "none", "twice"] (by decide)⟩]),
    (⟨"b.md"⟩, [
      ⟨"!DACDOC x.md;id=twice!", some "twice", Marker.defaultTestId, .primitive "x.md"⟩,
      ⟨"!DACDOC y.md;id=twice!", some "twice", Marker.defaultTestId, .primitive "y.md"⟩,
      ⟨"!DACDOC z.md;id=late!", some "late", Marker.defaultTestId, .primitive "z.md"⟩])]
  ascending := by decide +kernel

theorem composite_wired_across_files :
    ∃ occurrence, (occurrence, ⟨0⟩) ∈ (resolve referringAcrossFiles).bound ∧
      occurrence.marker.kind = .composite ∧
      (resolve referringAcrossFiles).checks[0]? ≠ some (.unknown .cyclicReference) ∧
      ∃ parts, (resolve referringAcrossFiles).checks[0]? = some (.composite parts) ∧
        parts.length = occurrence.marker.ids.length ∧
        ∀ (place : Nat) (name : String) (part : CheckId),
          occurrence.marker.ids[place]? = some name → parts[place]? = some part →
            Answers referringAcrossFiles name part := by
  have wired : Slot.wired (Occurrence.ofFiles referringAcrossFiles) =
      [.composite [⟨3⟩, ⟨1⟩, ⟨4⟩, ⟨1⟩], .url (.ofArgument ⟨"b.md"⟩ "x.md"),
        .url (.ofArgument ⟨"b.md"⟩ "y.md"), .url (.ofArgument ⟨"b.md"⟩ "z.md"),
        .unknown (.missingReference "none")] := rfl
  have noCircle (first second third : UrlCheck) :
      cycles [.composite [⟨3⟩, ⟨1⟩, ⟨4⟩, ⟨1⟩], .url first, .url second, .url third,
        .unknown (.missingReference "none")] = [] := by
    simp [cycles, cyclic, composites, reachable, successors, explore, Check.isComposite,
      Check.references, distinct, distinctOn]
  have kept : (resolve referringAcrossFiles).checks[0]? ≠ some (.unknown .cyclicReference) := by
    unfold resolve
    rw [Resolution.checks_ofOccurrences, wired, noCircle]
    simp [breakCycles]
  have bound := List.mem_of_getElem?
    (show (resolve referringAcrossFiles).bound[0]? = some _ from rfl)
  exact ⟨_, bound, rfl, kept, composite_wired referringAcrossFiles bound rfl kept⟩

end DocMarkers
