import DocMarkers.Proofs.Bindings
import DocMarkers.Proofs.WorstLeaf

/-! # Verdicts are local

A project may be a part of a larger one: all its occurrences are there as well, and the ids that its
composite markers refer to have the same first declaration, or none, in both (`IsPartOf`). The two
projects number their checks differently, so checks are compared by what they stand for: `Twin`
holds of the checks of one occurrence and of the checks for one missing id.

Circles through the part lie inside it (`IsPartOf.leads_iff`), since references lead from the part
into the part. So twins are links to one place, unknown for one reason, or composite with twins for
parts (`Twin.simple`, `Twin.composite`), and mean the same outcome (`Means.twin`).
-/

namespace DocMarkers

open Relation

/-- All occurrences of `part` are occurrences of `whole`, and the references of `part` mean the same
in both. -/
structure IsPartOf (part whole : Path.Map (List Marker)) : Prop where
  occurs : ∀ occurrence ∈ Occurrence.ofFiles part, occurrence ∈ Occurrence.ofFiles whole
  refers : ∀ occurrence ∈ Occurrence.ofFiles part, occurrence.marker.kind = .composite →
    ∀ name ∈ occurrence.marker.ids, ∀ first,
      Occurrence.IsFirstDeclarer part name first ↔ Occurrence.IsFirstDeclarer whole name first

/-- Checks of two projects that stand for the same. -/
inductive Twin (part whole : Path.Map (List Marker)) : CheckId → CheckId → Prop where
  /-- They are the checks of one occurrence. -/
  | bound {occurrence : Occurrence} {here there : CheckId}
      (row : (occurrence, here) ∈ (resolve part).bound)
      (wholeRow : (occurrence, there) ∈ (resolve whole).bound) : Twin part whole here there
  /-- They say that one id is missing. -/
  | missing {name : String} {here there : CheckId}
      (absent : (resolve part).checks[here.index]? = some (.unknown (.missingReference name)))
      (wholeAbsent : (resolve whole).checks[there.index]? =
        some (.unknown (.missingReference name))) :
      Twin part whole here there

/-- The first declaration of an id is what a look-up finds. -/
theorem Occurrence.isFirstDeclarer_iff_map {files : Path.Map (List Marker)} {name : String}
    {first : Occurrence} :
    IsFirstDeclarer files name first ↔
      (declarer? (ofFiles files) name).map (ofFiles files).get = some first := by
  rw [isFirstDeclarer_iff, Option.map_eq_some_iff]

section Part

variable {part whole : Path.Map (List Marker)} {occurrence : Occurrence} {here there : CheckId}

/-- An occurrence of the part refers to the same occurrences in both projects. -/
theorem IsPartOf.refersTo_iff (isPart : IsPartOf part whole)
    (member : occurrence ∈ Occurrence.ofFiles part) {target : Occurrence} :
    occurrence.RefersTo part target ↔ occurrence.RefersTo whole target := by
  constructor
  · rintro ⟨-, composite, targetComposite, name, named, first⟩
    exact ⟨isPart.occurs _ member, composite, targetComposite, name, named,
      (isPart.refers _ member composite name named _).mp first⟩
  · rintro ⟨-, composite, targetComposite, name, named, first⟩
    exact ⟨member, composite, targetComposite, name, named,
      (isPart.refers _ member composite name named _).mpr first⟩

theorem Occurrence.RefersTo.mem_target {target : Occurrence}
    (refers : occurrence.RefersTo part target) : target ∈ ofFiles part := by
  obtain ⟨-, -, -, _, -, first⟩ := refers
  exact first.mem

/-- References lead from an occurrence of the part to the same occurrences in both projects. The
induction goes forward: what is reached is again an occurrence of the part. -/
theorem IsPartOf.leads_iff (isPart : IsPartOf part whole)
    (member : occurrence ∈ Occurrence.ofFiles part) {target : Occurrence} :
    TransGen (Occurrence.RefersTo part) occurrence target ↔
      TransGen (Occurrence.RefersTo whole) occurrence target := by
  constructor
  · intro leads
    refine TransGen.mono ?_ _ _ leads
    intro referrer middle refers
    exact (isPart.refersTo_iff refers.1).mp refers
  · intro leads
    induction leads with
    | single refers => exact .single ((isPart.refersTo_iff member).mpr refers)
    | tail _ refers ih =>
        obtain ⟨_, -, last⟩ := TransGen.tail'_iff.mp ih
        exact .tail ih ((isPart.refersTo_iff last.mem_target).mpr refers)

/-- What answers an id in the part is the twin of what answers it in the whole. -/
theorem IsPartOf.twin_of_answers (isPart : IsPartOf part whole)
    (member : occurrence ∈ Occurrence.ofFiles part)
    (composite : occurrence.marker.kind = .composite)
    {name : String} (named : name ∈ occurrence.marker.ids) (answer : Answers part name here)
    (wholeAnswer : Answers whole name there) : Twin part whole here there := by
  have declarers := isPart.refers occurrence member composite name named
  by_cases declared : ∃ other ∈ Occurrence.ofFiles part, other.marker.id = some name
  · obtain ⟨first, isFirst, row⟩ := answer.declared declared
    have wholeFirst := (declarers first).mp isFirst
    obtain ⟨other, otherFirst, wholeRow⟩ :=
      wholeAnswer.declared ⟨first, wholeFirst.mem, wholeFirst.declares⟩
    obtain rfl := wholeFirst.unique otherFirst
    exact .bound row wholeRow
  · have absent : ∀ other ∈ Occurrence.ofFiles part, other.marker.id ≠ some name :=
      fun other inside declares => declared ⟨other, inside, declares⟩
    have wholeAbsent : ∀ other ∈ Occurrence.ofFiles whole, other.marker.id ≠ some name := by
      intro other inside declares
      obtain ⟨first, isFirst, -⟩ := wholeAnswer.declared ⟨other, inside, declares⟩
      have partFirst := (declarers first).mpr isFirst
      exact absent first partFirst.mem partFirst.declares
    exact .missing (answer.missing.mp absent) (wholeAnswer.missing.mp wholeAbsent)

/-- What answers the ids of one composite marker are twins. -/
theorem IsPartOf.forall₂_twin (isPart : IsPartOf part whole)
    (member : occurrence ∈ Occurrence.ofFiles part)
    (composite : occurrence.marker.kind = .composite) {parts others : List CheckId}
    (answers : List.Forall₂ (Answers part) occurrence.marker.ids parts)
    (wholeAnswers : List.Forall₂ (Answers whole) occurrence.marker.ids others) :
    List.Forall₂ (Twin part whole) parts others := by
  rw [List.forall₂_iff_get] at answers wholeAnswers ⊢
  obtain ⟨length, answer⟩ := answers
  obtain ⟨wholeLength, wholeAnswer⟩ := wholeAnswers
  refine ⟨length.symm.trans wholeLength, ?_⟩
  intro place bounded wholeBounded
  have named : place < occurrence.marker.ids.length := length ▸ bounded
  exact isPart.twin_of_answers member composite (List.get_mem _ ⟨place, named⟩)
    (answer place named bounded) (wholeAnswer place named wholeBounded)

/-- The checks of one occurrence are the same, or both composite with twins for parts. -/
theorem IsPartOf.checks_of_bound (isPart : IsPartOf part whole)
    (row : (occurrence, here) ∈ (resolve part).bound)
    (wholeRow : (occurrence, there) ∈ (resolve whole).bound) :
    (∃ check, check.isComposite = false ∧ (resolve part).checks[here.index]? = some check ∧
      (resolve whole).checks[there.index]? = some check) ∨
    ∃ parts others, (resolve part).checks[here.index]? = some (.composite parts) ∧
      (resolve whole).checks[there.index]? = some (.composite others) ∧
        List.Forall₂ (Twin part whole) parts others := by
  have member := mem_ofFiles_of_bound row
  obtain ⟨check, found, binding⟩ := exists_binding row
  cases binding with
  | link claim test => exact .inl ⟨_, rfl, found, checks_of_link wholeRow claim test⟩
  | unrecognized primitive test =>
      exact .inl ⟨_, rfl, found, checks_of_unrecognized wholeRow primitive test⟩
  | circle composite leads =>
      have wholeBound : BoundComposite whole occurrence there := ⟨wholeRow, composite⟩
      have wholeLeads := (isPart.leads_iff member).mp leads
      exact .inl ⟨_, rfl, found, wholeBound.cyclic_iff.mpr wholeLeads⟩
  | composite composite outside answers =>
      have wholeBound : BoundComposite whole occurrence there := ⟨wholeRow, composite⟩
      obtain ⟨others, -, wholeFound, wholeAnswers⟩ :=
        wholeBound.stays fun leads => outside ((isPart.leads_iff member).mpr leads)
      exact .inr ⟨_, others, found, wholeFound,
        isPart.forall₂_twin member composite answers wholeAnswers⟩

/-- Twins are the same check, or both composite with twins for parts. -/
theorem Twin.cases_checks (isPart : IsPartOf part whole) (twin : Twin part whole here there) :
    (∃ check, check.isComposite = false ∧ (resolve part).checks[here.index]? = some check ∧
      (resolve whole).checks[there.index]? = some check) ∨
    ∃ parts others, (resolve part).checks[here.index]? = some (.composite parts) ∧
      (resolve whole).checks[there.index]? = some (.composite others) ∧
        List.Forall₂ (Twin part whole) parts others := by
  cases twin with
  | bound row wholeRow => exact isPart.checks_of_bound row wholeRow
  | missing absent wholeAbsent => exact .inl ⟨_, rfl, absent, wholeAbsent⟩

/-- A check of the part that is not composite is the check of its twin. -/
theorem Twin.simple (isPart : IsPartOf part whole) (twin : Twin part whole here there)
    {check : Check} (found : (resolve part).checks[here.index]? = some check)
    (simple : check.isComposite = false) : (resolve whole).checks[there.index]? = some check := by
  rcases twin.cases_checks isPart with ⟨other, -, otherFound, wholeFound⟩ | ⟨_, _, composite, -⟩
  · rw [Option.some.inj (found.symm.trans otherFound)]
    exact wholeFound
  · rw [Option.some.inj (found.symm.trans composite)] at simple
    cases simple

/-- The parts of a composite check of the part have twins in the check of its twin. -/
theorem Twin.composite (isPart : IsPartOf part whole) (twin : Twin part whole here there)
    {parts : List CheckId} (found : (resolve part).checks[here.index]? = some (.composite parts)) :
    ∃ others, (resolve whole).checks[there.index]? = some (.composite others) ∧
      List.Forall₂ (Twin part whole) parts others := by
  rcases twin.cases_checks isPart with ⟨check, simple, otherFound, -⟩ | ⟨_, others, composite, rest⟩
  · rw [← Option.some.inj (found.symm.trans otherFound)] at simple
    cases simple
  · obtain rfl := parts_unique found composite
    exact ⟨others, rest⟩

/-- Twins mean the same outcome. The induction is on what the check of the part means. -/
theorem Means.twin (isPart : IsPartOf part whole) {root : Path} {probe : Probe} {outcome : Outcome}
    (means : Means (resolve part).checks root probe here outcome)
    (twin : Twin part whole here there) :
    Means (resolve whole).checks root probe there outcome := by
  induction means generalizing there with
  | url found => exact .url (twin.simple isPart found rfl)
  | unknown found => exact .unknown (twin.simple isPart found rfl)
  | @composite here parts outcomes outcome found inner verdict ih =>
      obtain ⟨others, wholeFound, twins⟩ := twin.composite isPart found
      have wholeInner :
          List.Forall₂ (Means (resolve whole).checks root probe) others (parts.map outcomes) := by
        rw [List.forall₂_map_right_iff]
        refine List.Forall₂.flip ((List.forall₂_and_left _ _).mpr ⟨ih, twins⟩ |>.imp ?_)
        rintro part other ⟨transfer, partTwin⟩
        exact transfer partTwin
      rw [verdict.eq_combine]
      exact Means.combine wholeFound wholeInner

end Part

/-- **Verdicts are local.** An occurrence of a part of a project has one outcome, whether the part
or the whole is resolved and evaluated, and its check is lost to a circle in both or in neither. -/
theorem verdict_local {part whole : Path.Map (List Marker)} (isPart : IsPartOf part whole)
    (root : Path) (probe : Probe) {occurrence : Occurrence}
    (member : occurrence ∈ Occurrence.ofFiles part) :
    ∃ here there outcome,
      (resolve part).checkId? occurrence = some here ∧
      (resolve whole).checkId? occurrence = some there ∧
      (Evaluation.ofResolution (resolve part) root probe).outcomes[here.index]? = some outcome ∧
      (Evaluation.ofResolution (resolve whole) root probe).outcomes[there.index]? = some outcome ∧
      ((resolve part).checks[here.index]? = some (.unknown .cyclicReference) ↔
        (resolve whole).checks[there.index]? = some (.unknown .cyclicReference)) := by
  obtain ⟨here, row⟩ := exists_bound member
  obtain ⟨there, wholeRow⟩ := exists_bound (isPart.occurs occurrence member)
  have twin : Twin part whole here there := .bound row wholeRow
  obtain ⟨outcome, means⟩ := exists_means root probe (bounded_of_mem_bound row)
  refine ⟨here, there, outcome, checkId?_of_bound row, checkId?_of_bound wholeRow,
    (getElem?_outcomes_iff part root probe).mpr means,
    (getElem?_outcomes_iff whole root probe).mpr (means.twin isPart twin), ?_⟩
  constructor
  · intro lost
    exact twin.simple isPart lost rfl
  · intro wholeLost
    rcases twin.cases_checks isPart with ⟨check, -, found, wholeFound⟩ | ⟨_, _, -, composite, -⟩
    · rw [found, ← wholeFound, wholeLost]
    · cases wholeLost.symm.trans composite

/-- A marker that combines a link and an id that nobody declares, with that link. -/
def combining : List Marker :=
  [⟨"!DACDOC ids=x,gone!", none, Marker.defaultTestId, .composite none ["x", "gone"] (by decide)⟩,
    ⟨"!DACDOC x.md;id=x!", some "x", Marker.defaultTestId, .primitive "x.md"⟩]

/-- A project of one file. -/
def alone : Path.Map (List Marker) where
  entries := [(⟨"b.md"⟩, combining)]
  ascending := by decide +kernel

/-- The same file between others: one before it with an unknown test and with a circle, and one
behind it that declares an id again. -/
def amongOthers : Path.Map (List Marker) where
  entries := [
    (⟨"a.md"⟩, [
      ⟨"!DACDOC y;test=other!", none, "other", .primitive "y"⟩,
      ⟨"!DACDOC ids=loop;id=loop!", some "loop", Marker.defaultTestId,
        .composite none ["loop"] (by decide)⟩]),
    (⟨"b.md"⟩, combining),
    (⟨"c.md"⟩, [⟨"!DACDOC z.md;id=x!", some "x", Marker.defaultTestId, .primitive "z.md"⟩])]
  ascending := by decide +kernel

theorem verdict_local_among_others :
    IsPartOf alone amongOthers ∧
      ∀ occurrence ∈ Occurrence.ofFiles alone, ∀ root probe, ∃ here there outcome,
        (resolve alone).checkId? occurrence = some here ∧
        (resolve amongOthers).checkId? occurrence = some there ∧
        (Evaluation.ofResolution (resolve alone) root probe).outcomes[here.index]? = some outcome ∧
        (Evaluation.ofResolution (resolve amongOthers) root probe).outcomes[there.index]? =
          some outcome ∧
        ((resolve alone).checks[here.index]? = some (.unknown .cyclicReference) ↔
          (resolve amongOthers).checks[there.index]? = some (.unknown .cyclicReference)) := by
  have isPart : IsPartOf alone amongOthers := by
    constructor
    · intro occurrence member
      have rows : Occurrence.ofFiles alone = combining.map (⟨⟨"b.md"⟩, ·⟩) := rfl
      have wholeRows : Occurrence.ofFiles amongOthers = (Occurrence.ofFiles amongOthers).take 2 ++
          combining.map (⟨⟨"b.md"⟩, ·⟩) ++ (Occurrence.ofFiles amongOthers).drop 4 := rfl
      rw [rows] at member
      rw [wholeRows]
      exact List.mem_append_left _ (List.mem_append_right _ member)
    · intro occurrence member _ name named first
      have named : name ∈ ["x", "gone"] := by
        rcases List.mem_cons.mp member with rfl | member
        · exact named
        · obtain rfl := List.mem_singleton.mp member
          cases named
      rw [Occurrence.isFirstDeclarer_iff_map, Occurrence.isFirstDeclarer_iff_map]
      rcases List.mem_cons.mp named with rfl | named
      · exact Iff.rfl
      · obtain rfl := List.mem_singleton.mp named
        exact Iff.rfl
  exact ⟨isPart, fun _ member root probe => verdict_local isPart root probe member⟩

end DocMarkers
