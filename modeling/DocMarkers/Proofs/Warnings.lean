import DocMarkers.Proofs.CircleBreaking

/-! # What resolution warns of

An occurrence is shadowed when its marker declares an id that an earlier occurrence has declared.
The warning of a shadowed occurrence names the occurrence that has the id, which is the first one
that declares it and not just an earlier one (`ReportsShadowing`).

`warnings_complete` says that resolution warns of all shadowed occurrences, in order, then of all
circles, in order, and of nothing else.
-/

namespace DocMarkers

open Relation

/-- The marker declares an id that an earlier occurrence of the project has declared. -/
def Occurrence.IsShadowed (files : Path.Map (List Marker)) (occurrence : Occurrence) : Prop :=
  ∃ id, occurrence.marker.id = some id ∧
    ∃ earlier ∈ ofFiles files, earlier.marker.id = some id ∧ earlier.Precedes files occurrence

/-- The notice says which occurrence has the id that `occurrence` declares: the first that declares
it. -/
def ReportsShadowing (files : Path.Map (List Marker)) (occurrence : Occurrence) (notice : Notice) :
    Prop :=
  ∃ id first, occurrence.marker.id = some id ∧ Occurrence.IsFirstDeclarer files id first ∧
    notice = .shadowed id occurrence.file first.file

/-- The notices of a resolution that its user is warned with, in order. -/
def warnings (files : Path.Map (List Marker)) : List Notice :=
  (Resolution.notices (Occurrence.ofFiles files)).filter fun notice => notice.level = .warn

/-- The images of a change belong to the elements that have one, in the same order. -/
theorem forall₂_filterMap {α β : Type} (change : α → Option β) (list : List α) :
    List.Forall₂ (fun element image => change element = some image)
      (list.filter fun element => (change element).isSome) (list.filterMap change) := by
  induction list with
  | nil => exact .nil
  | cons first rest ih =>
      cases changed : change first with
      | none =>
          rw [List.filterMap_cons_none changed, List.filter_cons_of_neg (by simp [changed])]
          exact ih
      | some image =>
          rw [List.filterMap_cons_some changed, List.filter_cons_of_pos (by simp [changed])]
          exact .cons changed ih

section Shadowing

variable {files : Path.Map (List Marker)}

namespace Occurrence

/-- Of two places of a project, one that comes before the other has an earlier occurrence. -/
theorem precedes_iff_lt {first second : Fin (ofFiles files).length} :
    ((ofFiles files).get first).Precedes files ((ofFiles files).get second) ↔ first < second := by
  have ordered := List.pairwise_iff_get.mp (pairwise_precedes files)
  constructor
  · intro before
    rcases Nat.lt_trichotomy first.val second.val with less | same | greater
    · exact less
    · exact absurd (congrArg _ (Fin.ext same)) before.ne
    · exact absurd before (ordered second first greater).asymm
  · exact ordered first second

/-- An occurrence that declares an id is shadowed when it is not the first that does. -/
theorem isShadowed_iff_of_declarer? {id : String} {place first : Fin (ofFiles files).length}
    (declares : ((ofFiles files).get place).marker.id = some id)
    (found : declarer? (ofFiles files) id = some first) :
    ((ofFiles files).get place).IsShadowed files ↔ first < place := by
  have isFirst : IsFirstDeclarer files id ((ofFiles files).get first) :=
    isFirstDeclarer_iff.mpr ⟨first, found, rfl⟩
  constructor
  · rintro ⟨other, otherDeclares, earlier, member, earlierDeclares, before⟩
    obtain rfl : other = id := Option.some.inj (otherDeclares.symm.trans declares)
    obtain ⟨earlierPlace, rfl⟩ := List.mem_iff_get.mp member
    have less : earlierPlace < place := precedes_iff_lt.mp before
    rcases isFirst.least _ member earlierDeclares with same | after
    · rw [get_injective same] at less
      exact less
    · exact Nat.lt_trans (precedes_iff_lt.mp after) less
  · intro less
    exact ⟨id, declares, _, isFirst.mem, isFirst.declares, precedes_iff_lt.mpr less⟩

end Occurrence

open Occurrence

/-- What is noticed of an occurrence is that it is shadowed, and by which one. -/
theorem Resolution.shadowing?_eq_some_iff {place : Fin (ofFiles files).length} {notice : Notice} :
    shadowing? (ofFiles files) place = some notice ↔
      ((ofFiles files).get place).IsShadowed files ∧
        ReportsShadowing files ((ofFiles files).get place) notice := by
  unfold shadowing?
  simp only [Option.bind_eq_bind, Option.bind_eq_some_iff, Option.ite_none_right_eq_some,
    Option.some.injEq]
  constructor
  · rintro ⟨id, declares, first, found, less, rfl⟩
    exact ⟨(isShadowed_iff_of_declarer? declares found).mpr less, id, _, declares,
      isFirstDeclarer_iff.mpr ⟨first, found, rfl⟩, rfl⟩
  · rintro ⟨shadowed, id, first, declares, isFirst, rfl⟩
    obtain ⟨firstPlace, found, rfl⟩ := isFirstDeclarer_iff.mp isFirst
    exact ⟨id, declares, firstPlace, found,
      (isShadowed_iff_of_declarer? declares found).mp shadowed, rfl⟩

/-- Every shadowed occurrence is noticed. -/
theorem Resolution.isSome_shadowing?_iff {place : Fin (ofFiles files).length} :
    (shadowing? (ofFiles files) place).isSome ↔ ((ofFiles files).get place).IsShadowed files := by
  rw [Option.isSome_iff_exists]
  simp only [shadowing?_eq_some_iff, exists_and_left]
  refine and_iff_left_of_imp ?_
  rintro ⟨id, declares, -⟩
  cases found : declarer? (ofFiles files) id with
  | none => exact absurd declares (declarer?_eq_none_iff.mp found _ (List.get_mem _ place))
  | some first =>
      exact ⟨_, id, _, declares, isFirstDeclarer_iff.mpr ⟨first, found, rfl⟩, rfl⟩

/-- Of what is noticed, only shadowed declarations and circles are warned of. -/
theorem warnings_eq (files : Path.Map (List Marker)) :
    warnings files =
      (List.finRange (ofFiles files).length).filterMap (Resolution.shadowing? (ofFiles files)) ++
        (resolve files).cycles.map .circle := by
  have tests : ∀ notice ∈ Resolution.testNotices (ofFiles files), notice.level ≠ .warn := by
    intro notice member
    obtain ⟨occurrence, -, found⟩ := List.mem_filterMap.mp member
    split at found
    · cases found
    · split at found <;> cases found
      simp [Notice.level]
  have references : ∀ notice ∈ Resolution.referenceNotices (ofFiles files),
      notice.level ≠ .warn := by
    intro notice member
    obtain ⟨occurrence, -, found⟩ := List.mem_flatMap.mp member
    obtain ⟨id, -, rfl⟩ := List.mem_map.mp found
    simp [Notice.level]
  have shadowings : ∀ notice ∈ (List.finRange (ofFiles files).length).filterMap
      (Resolution.shadowing? (ofFiles files)), notice.level = .warn := by
    intro notice member
    obtain ⟨place, -, found⟩ := List.mem_filterMap.mp member
    obtain ⟨-, id, first, -, -, rfl⟩ := Resolution.shadowing?_eq_some_iff.mp found
    rfl
  have circles : ∀ notice ∈ (resolve files).cycles.map Notice.circle, notice.level = .warn := by
    intro notice member
    obtain ⟨circle, -, rfl⟩ := List.mem_map.mp member
    rfl
  unfold warnings Resolution.notices
  simp only [List.filter_append]
  rw [List.filter_eq_nil_iff.mpr (by simpa using tests),
    List.filter_eq_self.mpr (by simpa using shadowings),
    List.filter_eq_nil_iff.mpr (by simpa using references),
    List.filter_eq_self.mpr (by simpa [resolve] using circles)]
  simp [Notice.level, resolve]

/-- What is noticed of shadowed occurrences follows their order. -/
theorem exists_shadowed (files : Path.Map (List Marker)) :
    ∃ shadowed : List Occurrence, shadowed.Sublist (ofFiles files) ∧
      (∀ occurrence, occurrence ∈ shadowed ↔
        occurrence ∈ ofFiles files ∧ occurrence.IsShadowed files) ∧
      List.Forall₂ (ReportsShadowing files) shadowed
        ((List.finRange (ofFiles files).length).filterMap
          (Resolution.shadowing? (ofFiles files))) := by
  let places := (List.finRange (ofFiles files).length).filter fun place =>
    (Resolution.shadowing? (ofFiles files) place).isSome
  refine ⟨places.map (ofFiles files).get, ?_, ?_, ?_⟩
  · have shorter : places.Sublist (List.finRange (ofFiles files).length) := List.filter_sublist
    have occurrences := shorter.map (ofFiles files).get
    rwa [List.map_get_finRange] at occurrences
  · intro occurrence
    simp only [places, List.mem_map, List.mem_filter, List.mem_finRange, true_and,
      Resolution.isSome_shadowing?_iff]
    constructor
    · rintro ⟨place, shadowed, rfl⟩
      exact ⟨List.get_mem _ place, shadowed⟩
    · rintro ⟨member, shadowed⟩
      obtain ⟨place, rfl⟩ := List.mem_iff_get.mp member
      exact ⟨place, shadowed, rfl⟩
  · rw [List.forall₂_map_left_iff]
    refine (forall₂_filterMap _ _).imp fun place notice noticed => ?_
    exact (Resolution.shadowing?_eq_some_iff.mp noticed).2

/-- Nothing is shadowed exactly when no two occurrences declare one id. -/
theorem forall_not_isShadowed_iff :
    (∀ occurrence ∈ ofFiles files, ¬ occurrence.IsShadowed files) ↔
      ∀ left ∈ ofFiles files, ∀ right ∈ ofFiles files, ∀ id, left.marker.id = some id →
        right.marker.id = some id → left = right := by
  constructor
  · intro unshadowed left leftMember right rightMember id leftDeclares rightDeclares
    obtain ⟨leftPlace, rfl⟩ := List.mem_iff_get.mp leftMember
    obtain ⟨rightPlace, rfl⟩ := List.mem_iff_get.mp rightMember
    rcases Nat.lt_trichotomy leftPlace.val rightPlace.val with less | same | greater
    · exact absurd ⟨id, rightDeclares, _, leftMember, leftDeclares, precedes_iff_lt.mpr less⟩
        (unshadowed _ rightMember)
    · exact congrArg _ (Fin.ext same)
    · exact absurd ⟨id, leftDeclares, _, rightMember, rightDeclares, precedes_iff_lt.mpr greater⟩
        (unshadowed _ leftMember)
  · rintro distinct occurrence member ⟨id, declares, earlier, earlierMember, taken, before⟩
    exact before.ne (distinct earlier earlierMember occurrence member id taken declares)

/-- No circle is listed exactly when no occurrence leads to itself. -/
theorem cycles_eq_nil_iff :
    (resolve files).cycles = [] ↔
      ∀ occurrence, ¬ TransGen (Occurrence.RefersTo files) occurrence occurrence := by
  rw [List.eq_nil_iff_forall_not_mem]
  simp only [mem_cycles_resolve_iff]
  constructor
  · intro none occurrence circular
    obtain ⟨_, refers, -⟩ := TransGen.head'_iff.mp circular
    obtain ⟨place, rfl⟩ := List.mem_iff_get.mp refers.1
    exact none _ ⟨_, circular, (boundComposite_idAt refers.2.1).isClassOf⟩
  · rintro acyclic circle ⟨occurrence, circular, -⟩
    exact acyclic occurrence circular

end Shadowing

/-- **Warnings.** Resolution warns of every shadowed occurrence once, in order, naming the
occurrence that has its id, then of every circle once, in order, naming its members, and of nothing
else. So it does not warn exactly when all ids that are declared are different and no occurrence
leads to itself. -/
theorem warnings_complete (files : Path.Map (List Marker)) :
    (∃ shadowed notices, shadowed.Sublist (Occurrence.ofFiles files) ∧ shadowed.Nodup ∧
      (∀ occurrence, occurrence ∈ shadowed ↔
        occurrence ∈ Occurrence.ofFiles files ∧ occurrence.IsShadowed files) ∧
      List.Forall₂ (ReportsShadowing files) shadowed notices ∧
      warnings files = notices ++ (resolve files).cycles.map .circle) ∧
    (warnings files = [] ↔
      (∀ left ∈ Occurrence.ofFiles files, ∀ right ∈ Occurrence.ofFiles files, ∀ id,
        left.marker.id = some id → right.marker.id = some id → left = right) ∧
      ∀ occurrence, ¬ TransGen (Occurrence.RefersTo files) occurrence occurrence) := by
  obtain ⟨shadowed, sublist, members, reports⟩ := exists_shadowed files
  refine ⟨⟨shadowed, _, sublist, sublist.nodup (Occurrence.nodup_ofFiles files), members, reports,
    warnings_eq files⟩, ?_⟩
  have silent : (List.finRange (Occurrence.ofFiles files).length).filterMap
      (Resolution.shadowing? (Occurrence.ofFiles files)) = [] ↔
        ∀ occurrence ∈ Occurrence.ofFiles files, ¬ occurrence.IsShadowed files := by
    rw [← List.length_eq_zero_iff, ← reports.length_eq, List.length_eq_zero_iff,
      List.eq_nil_iff_forall_not_mem]
    exact forall_congr' fun occurrence => by rw [members, not_and]
  rw [warnings_eq, List.append_eq_nil_iff, List.map_eq_nil_iff, silent,
    forall_not_isShadowed_iff, cycles_eq_nil_iff]

end DocMarkers
