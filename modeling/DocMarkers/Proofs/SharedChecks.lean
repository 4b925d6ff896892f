import DocMarkers.Proofs.Bindings
import DocMarkers.Proofs.Memoisation

/-! # Shared checks

Each occurrence has one check. Checks are numbered in the order in which occurrences first need
them, and behind those of the occurrences stand the checks for ids that nobody declares, one for
each, in the order of the first references (`Slot.all_eq`). Occurrences share a check only when they
name the same unknown test (`Slot.ofPlace_eq_iff`).

`isLaidOut_resolve` says all this of every project. Taking out circles replaces checks in place and
changes none of it.
-/

namespace DocMarkers

namespace Occurrence

/-- The markers of all files, each with its file, as they are listed. -/
def listed (files : Path.Map (List Marker)) : List Occurrence :=
  files.entries.flatMap fun (file, markers) => markers.map fun marker => ⟨file, marker⟩

/-- What makes two occurrences the same. -/
def key (occurrence : Occurrence) : List Path.Component × String :=
  (occurrence.file.components, occurrence.marker.raw)

/-- The ids that occurrences refer to and none of them declares, in the order of the references. -/
def undeclared (occurrences : List Occurrence) : List String :=
  occurrences.flatMap fun occurrence =>
    occurrence.marker.ids.filter fun id => occurrences.all fun other => !other.declares id

theorem key_eq_iff {left right : Occurrence} : left.key = right.key ↔ left.Same right := by
  unfold key
  rw [Prod.mk.injEq]
  rfl

theorem distinctOn_key_map (file : Path) (markers : List Marker) :
    distinctOn key (markers.map (Occurrence.mk file)) =
      (distinctOn Marker.raw markers).map (Occurrence.mk file) := by
  rw [distinctOn_map]
  apply congrArg (List.map _)
  apply distinctOn_congr
  intro left right
  rw [key_eq_iff]
  exact and_iff_right rfl

theorem ofFiles_eq_distinctOn (files : Path.Map (List Marker)) :
    ofFiles files = distinctOn key (listed files) := by
  obtain ⟨entries, ascending⟩ := files
  unfold ofFiles listed
  dsimp only
  induction entries with
  | nil => rfl
  | cons entry rest ih =>
      obtain ⟨file, markers⟩ := entry
      obtain ⟨before, later⟩ := List.pairwise_cons.mp ascending
      rw [List.flatMap_cons, List.flatMap_cons, distinctOn_append_of_apart, ← ih later]
      · rw [distinctOn_key_map]
      · intro earlier earlierMember other otherMember same
        obtain ⟨marker, -, rfl⟩ := List.mem_map.mp earlierMember
        obtain ⟨otherEntry, inside, otherMember⟩ := List.mem_flatMap.mp otherMember
        obtain ⟨otherMarker, -, rfl⟩ := List.mem_map.mp otherMember
        exact Path.not_same_of_lt (before otherEntry inside) (key_eq_iff.mp same).1

end Occurrence

namespace Slot

variable {occurrences : List Occurrence}

theorem declarer?_eq_none_iff {name : String} :
    Occurrence.declarer? occurrences name = none ↔
      (occurrences.all fun other => !other.declares name) = true := by
  unfold Occurrence.declarer?
  rw [List.findFinIdx?_eq_none_iff]
  simp

/-- Only a reference to an id that nobody declares needs a slot that no occurrence has. -/
theorem ofReference_mem_ofOccurrences_iff {name : String} :
    ofReference occurrences name ∈ ofOccurrences occurrences ↔
      Occurrence.declarer? occurrences name ≠ none := by
  cases found : Occurrence.declarer? occurrences name with
  | none =>
      have isMissing := ofReference_eq_missing_iff.mpr found
      apply iff_of_false
      · intro member
        obtain ⟨place, -, same⟩ := List.mem_map.mp member
        exact ofPlace_ne_missing place name (same.trans isMissing)
      · simp
  | some place =>
      rw [ofReference_of_declared found]
      apply iff_of_true
      · exact List.mem_map.mpr ⟨place, List.mem_finRange place, rfl⟩
      · simp

theorem filter_ofReferences :
    (ofReferences occurrences).filter (fun slot => slot ∉ ofOccurrences occurrences) =
      (Occurrence.undeclared occurrences).map missing := by
  have undeclared (name : String) :
      decide (ofReference occurrences name ∉ ofOccurrences occurrences) =
        occurrences.all fun other => !other.declares name := by
    rw [Bool.eq_iff_iff, decide_eq_true_iff, ofReference_mem_ofOccurrences_iff, not_not,
      declarer?_eq_none_iff]
  unfold ofReferences Occurrence.undeclared
  rw [List.filter_flatMap, List.map_flatMap]
  apply List.flatMap_congr
  intro occurrence _
  rw [List.filter_map]
  simp only [Function.comp_def, undeclared]
  apply List.map_congr_left
  intro name member
  apply ofReference_eq_missing_iff.mpr
  exact declarer?_eq_none_iff.mpr (List.mem_filter.mp member).2

/-- The slots of the occurrences come first, and those that only a reference needs behind them. -/
theorem all_eq (occurrences : List Occurrence) :
    all occurrences = distinct (ofOccurrences occurrences) ++
      (distinct (Occurrence.undeclared occurrences)).map missing := by
  have rest : (distinct (ofReferences occurrences)).filter
      (fun slot => slot ∉ ofOccurrences occurrences) =
        (distinct (Occurrence.undeclared occurrences)).map missing := by
    rw [← distinct_filter, filter_ofReferences, distinct_map_of_injOn]
    intro left _ right _ same
    exact Slot.missing.inj same
  unfold all
  rw [distinct_append, rest]

/-- The slot whose check is unknown for a reason. -/
def ofReason? {count : Nat} : UnknownReason → Option (Slot count)
  | .unrecognizedTest test => some (unrecognized test)
  | .missingReference name => some (missing name)
  | .cyclicReference => none

theorem check_eq_unknown_iff {slots : List (Slot occurrences.length)}
    {slot : Slot occurrences.length} {reason : UnknownReason} :
    check occurrences slots slot = .unknown reason ↔ ofReason? reason = some slot := by
  cases slot with
  | own place =>
      apply iff_of_false
      · intro unknown
        rcases check_own_cases slots place with ⟨-, url, isUrl⟩ | ⟨-, wired⟩
        · cases isUrl.symm.trans unknown
        · cases wired.symm.trans unknown
      · cases reason <;> simp [ofReason?]
  | unrecognized test => cases reason <;> simp [check, ofReason?, eq_comm]
  | missing name => cases reason <;> simp [check, ofReason?, eq_comm]

/-- An occurrence has its own slot, unless it names an unknown test. -/
theorem ofPlace_cases (place : Fin occurrences.length) :
    (ofPlace occurrences place = own place ∧
      ((occurrences.get place).marker.kind = .composite ∨
        (occurrences.get place).marker.testId = Marker.defaultTestId)) ∨
    (ofPlace occurrences place = unrecognized (occurrences.get place).marker.testId ∧
      (occurrences.get place).marker.kind = .primitive ∧
        (occurrences.get place).marker.testId ≠ Marker.defaultTestId) := by
  unfold ofPlace
  dsimp only
  cases (occurrences.get place).marker.kind with
  | composite => exact .inl ⟨rfl, .inl rfl⟩
  | primitive =>
      by_cases known : (occurrences.get place).marker.testId = Marker.defaultTestId
      · exact .inl ⟨if_pos known, .inr known⟩
      · exact .inr ⟨if_neg known, rfl, known⟩

/-- Different occurrences have one slot when they name the same unknown test. -/
theorem ofPlace_eq_iff {left right : Fin occurrences.length} (different : left ≠ right) :
    ofPlace occurrences left = ofPlace occurrences right ↔
      (occurrences.get left).marker.kind = .primitive ∧
        (occurrences.get right).marker.kind = .primitive ∧
        (occurrences.get left).marker.testId = (occurrences.get right).marker.testId ∧
        (occurrences.get left).marker.testId ≠ Marker.defaultTestId := by
  rcases ofPlace_cases left with ⟨leftOwn, leftKnown⟩ | ⟨leftTest, leftKind, leftUnknown⟩
  · apply iff_of_false
    · rw [leftOwn]
      intro same
      exact different (eq_of_ofPlace_eq_own same.symm).symm
    · intro shared
      obtain ⟨primitive, -, -, unknown⟩ := shared
      rcases leftKnown with composite | known
      · cases primitive.symm.trans composite
      · exact unknown known
  · rcases ofPlace_cases right with ⟨rightOwn, rightKnown⟩ | ⟨rightTest, rightKind, -⟩
    · apply iff_of_false
      · rw [leftTest, rightOwn]
        intro same
        cases same
      · intro shared
        obtain ⟨-, primitive, same, unknown⟩ := shared
        rcases rightKnown with composite | known
        · cases primitive.symm.trans composite
        · exact unknown (same.trans known)
    · rw [leftTest, rightTest, Slot.unrecognized.injEq]
      constructor
      · intro same
        exact ⟨leftKind, rightKind, same, leftUnknown⟩
      · intro shared
        obtain ⟨-, -, same, -⟩ := shared
        exact same

end Slot

/-- The tables of a resolution fit together. -/
structure Resolution.IsLaidOut (files : Path.Map (List Marker)) (resolution : Resolution) :
    Prop where
  /-- The occurrences are the listed markers, without those that repeat an earlier one. -/
  occurrences : resolution.bound.map Prod.fst = distinctOn Occurrence.key (Occurrence.listed files)
  /-- Every check that an occurrence is bound to is there. -/
  bounded : ∀ row ∈ resolution.bound, row.2.index < resolution.checks.length
  /-- So is every part of a composite check. -/
  partsBounded : ∀ whole part, Combines resolution.checks whole part →
    part.index < resolution.checks.length
  /-- A look-up finds the check of an occurrence, in whatever spelling, and nothing else. -/
  lookup : ∀ occurrence id, resolution.checkId? occurrence = some id ↔
    ∃ row ∈ resolution.bound, row.1.Same occurrence ∧ row.2 = id
  /-- Two occurrences share a check when they name the same unknown test. -/
  shared : ∀ left ∈ resolution.bound, ∀ right ∈ resolution.bound, ¬ left.1.Same right.1 →
    (left.2 = right.2 ↔ left.1.marker.kind = .primitive ∧ right.1.marker.kind = .primitive ∧
      left.1.marker.testId = right.1.marker.testId ∧
      left.1.marker.testId ≠ Marker.defaultTestId)
  /-- The occurrences number the checks in the order in which they need them. Behind those are the
  checks for ids that nobody declares, each once, in the order of the first references. -/
  numbered : ∃ count, distinct (resolution.bound.map fun row => row.2.index) = List.range count ∧
    resolution.checks.drop count = (distinct (Occurrence.undeclared (Occurrence.ofFiles files))).map
      fun name => .unknown (.missingReference name)
  /-- No two checks name the same unknown test or the same missing id. -/
  distinctReasons : ∀ (first second : Nat) (reason : UnknownReason), reason ≠ .cyclicReference →
    resolution.checks[first]? = some (.unknown reason) →
      resolution.checks[second]? = some (.unknown reason) → first = second

section Layout

variable {files : Path.Map (List Marker)}

theorem Resolution.map_index_bound (occurrences : List Occurrence) :
    (ofOccurrences occurrences).bound.map (fun row => row.2.index) =
      (Slot.ofOccurrences occurrences).map (Slot.all occurrences).idxOf := by
  have ids : (ofOccurrences occurrences).bound.map Prod.snd =
      (Slot.ofOccurrences occurrences).map (Slot.checkId (Slot.all occurrences)) := by
    unfold ofOccurrences
    apply List.map_snd_zip
    simp [Slot.ofOccurrences]
  have indices := congrArg (List.map CheckId.index) ids
  rw [List.map_map, List.map_map] at indices
  exact indices

theorem Slot.drop_wired (occurrences : List Occurrence) :
    (wired occurrences).drop (distinct (ofOccurrences occurrences)).length =
      (distinct (Occurrence.undeclared occurrences)).map
        fun name => .unknown (.missingReference name) := by
  have slots : (all occurrences).drop (distinct (ofOccurrences occurrences)).length =
      (distinct (Occurrence.undeclared occurrences)).map missing := by
    rw [all_eq, List.drop_left]
  unfold wired
  rw [← List.map_drop, slots, List.map_map]
  rfl

/-- Taking out circles leaves a row of checks alone in which none is composite. -/
theorem Resolution.drop_checks_of_simple {occurrences : List Occurrence} {count : Nat}
    (simple : ∀ check ∈ (Slot.wired occurrences).drop count, check.isComposite = false) :
    (ofOccurrences occurrences).checks.drop count = (Slot.wired occurrences).drop count := by
  apply List.ext_getElem?
  intro place
  have outside : ¬ OnCircle (Slot.wired occurrences) ⟨count + place⟩ := by
    intro circle
    obtain ⟨parts, found⟩ := circle.isComposite
    rw [← List.getElem?_drop] at found
    cases simple _ (List.mem_of_getElem? found)
  rw [List.getElem?_drop, List.getElem?_drop]
  exact getElem?_checks_of_not_onCircle outside

theorem Resolution.checkId?_eq_some_iff {occurrence : Occurrence} {id : CheckId} :
    (resolve files).checkId? occurrence = some id ↔
      ∃ row ∈ (resolve files).bound, row.1.Same occurrence ∧ row.2 = id := by
  unfold checkId?
  constructor
  · intro found
    obtain ⟨row, search, rfl⟩ := Option.map_eq_some_iff.mp found
    have same := List.find?_some search
    rw [decide_eq_true_iff] at same
    exact ⟨row, List.mem_of_find?_eq_some search, same, rfl⟩
  · intro bound
    obtain ⟨row, member, same, rfl⟩ := bound
    have alone : ∀ other ∈ (resolve files).bound, decide (other.1.Same occurrence) = true →
        other.1.Same row.1 := by
      intro other _ passes
      have otherSame : other.1.Same occurrence := of_decide_eq_true passes
      exact ⟨Eq.trans otherSame.1 (Eq.symm same.1), otherSame.2.trans same.2.symm⟩
    rw [find?_bound member (decide_eq_true same) alone]
    rfl

/-- Different checks are unknown for different reasons, apart from circles. -/
theorem Resolution.eq_of_unknown {occurrences : List Occurrence} {first second : CheckId}
    {reason : UnknownReason} (lasting : reason ≠ .cyclicReference)
    (firstFound : (ofOccurrences occurrences).checks[first.index]? = some (.unknown reason))
    (secondFound : (ofOccurrences occurrences).checks[second.index]? = some (.unknown reason)) :
    first = second := by
  have kept : Check.unknown reason ≠ .unknown .cyclicReference :=
    fun same => lasting (Check.unknown.inj same)
  rw [getElem?_checks_eq_some_iff rfl kept] at firstFound secondFound
  obtain ⟨slot, -, rfl, isFirst⟩ := Slot.exists_slot_of_getElem?_wired firstFound
  obtain ⟨other, -, rfl, isSecond⟩ := Slot.exists_slot_of_getElem?_wired secondFound
  have slots := (Slot.check_eq_unknown_iff.mp isFirst.symm).symm.trans
    (Slot.check_eq_unknown_iff.mp isSecond.symm)
  rw [Option.some.inj slots]

/-- **Every occurrence has one check, and sharing is as designed.** The occurrences of a project are
its markers without repetitions, a look-up finds exactly these, only occurrences that name the same
unknown test share a check, and the checks are numbered without gaps in the order in which they are
first needed, those for undeclared ids last. -/
theorem isLaidOut_resolve (files : Path.Map (List Marker)) : (resolve files).IsLaidOut files where
  occurrences := by
    rw [← Occurrence.ofFiles_eq_distinctOn]
    exact Resolution.map_fst_bound _
  bounded := by
    rintro ⟨occurrence, id⟩ row
    exact bounded_of_mem_bound row
  partsBounded := by
    intro whole part combines
    exact bounded_of_combines files combines
  lookup := by
    intro occurrence id
    exact Resolution.checkId?_eq_some_iff
  shared := by
    rintro ⟨left, leftId⟩ leftRow ⟨right, rightId⟩ rightRow different
    obtain ⟨leftPlace, rfl, rfl⟩ := Resolution.mem_bound_iff.mp leftRow
    obtain ⟨rightPlace, rfl, rfl⟩ := Resolution.mem_bound_iff.mp rightRow
    have apart : leftPlace ≠ rightPlace := by
      rintro rfl
      exact different ⟨rfl, rfl⟩
    rw [← Slot.ofPlace_eq_iff apart]
    constructor
    · exact Slot.checkId_injective (Slot.ofPlace_mem_all leftPlace)
    · exact congrArg (Slot.checkId _)
  numbered := by
    refine ⟨(distinct (Slot.ofOccurrences (Occurrence.ofFiles files))).length, ?_, ?_⟩
    · unfold resolve
      rw [Resolution.map_index_bound, Slot.all_eq]
      exact distinct_map_idxOf _ _
    · unfold resolve
      rw [← Slot.drop_wired]
      apply Resolution.drop_checks_of_simple
      intro check member
      rw [Slot.drop_wired] at member
      obtain ⟨name, -, rfl⟩ := List.mem_map.mp member
      rfl
  distinctReasons := by
    intro first second reason lasting firstFound secondFound
    have same : CheckId.mk first = CheckId.mk second :=
      Resolution.eq_of_unknown lasting firstFound secondFound
    exact CheckId.mk.inj same

end Layout

end DocMarkers
