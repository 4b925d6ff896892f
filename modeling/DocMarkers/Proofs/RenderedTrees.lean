import DocMarkers.Proofs.CheckReports
import DocMarkers.Proofs.Destinations
import DocMarkers.Proofs.RenderedVerdicts
import DocMarkers.Proofs.Writes

/-! # The tree after rendering

For each clean document with placeholders one write is planned, and they go to different places
(`Writing.IsPlan`). The documents are written in this order, and after a failure the first ones
stand complete at their destinations and nothing else has changed but new directories
(`Writing.exists_prefix_of_writeEach`).
-/

namespace DocMarkers

/-- Where a document goes: over itself, or to the path that it has below the root, taken from the
directory of the target. -/
def RenderTarget.Sends (root document destination : Path) : RenderTarget → Prop
  | inPlace => destination = document
  | directory path => ∃ relative : Path, relative.isAbsolute = false ∧
      root.join relative = document ∧ destination = path.join relative

/-- What is to be written for a document: where it goes, and its text, in the one cut of which each
placeholder gives way to its own verdict. -/
structure Writing.IsPlanned (tree : Tree) (root : Path) (target : RenderTarget)
    (resolution : Resolution) (evaluation : Evaluation) (badges : Badges) (document : Path)
    (write : Path × String) : Prop where
  destination : target.Sends root document write.1
  text : ∃ (text : String) (layout : Layout) (shown : String → String),
    tree.readText document = .ok text ∧ layout.Cuts text.toList ∧
      write.2 = String.ofList (layout.replace shown) ∧
      ∀ raw ∈ layout.placeholders,
        ShowsVerdict resolution evaluation badges document raw (shown raw)

/-- There is one write for each clean document with placeholders, in order, and they are at
different paths and places. -/
structure Writing.IsPlan (tree : Tree) (documents : List Path) (root : Path) (target : RenderTarget)
    (resolution : Resolution) (evaluation : Evaluation) (badges : Badges)
    (plan : List (Path × String)) : Prop where
  planned : List.Forall₂ (IsPlanned tree root target resolution evaluation badges)
    (documents.filter fun document => cleanPlaceholders tree document ≠ []) plan
  different : plan.Pairwise fun left right => ¬ left.1.Same right.1
  apart : (plan.map fun write => tree.placeOf write.1).Nodup

namespace Writing

section Each

variable (project : Project) (scan : Scan) (evaluation : Evaluation) (target : RenderTarget)

/-- A document with its text, and what is written for it. -/
def Plans (entry write : Path × String) : Prop :=
  target.destination? project.root entry.1 = some write.1 ∧
    write.2 = Rendering.render (outcome? scan evaluation entry.1) project.settings.badges entry.2

variable {project scan evaluation target}
variable {tree : Tree} {entry write : Path × String} {documents plan : List (Path × String)}

/-- The first document ends the work, or is written before the others. -/
theorem writeEach_cons_cases (plans : Plans project scan evaluation target entry write)
    (tree : Tree) (rest : List (Path × String)) :
    (∃ failure left notices, tree.writeDocument write.1 write.2 = (.error failure, left) ∧
      writeEach project scan evaluation target tree (entry :: rest) =
        ⟨[], some failure, left, notices⟩) ∨
    ∃ written notices, tree.writeDocument write.1 write.2 = (.ok (), written) ∧
      writeEach project scan evaluation target tree (entry :: rest) =
        { writeEach project scan evaluation target written rest with
          written := write.1 :: (writeEach project scan evaluation target written rest).written
          notices } := by
  obtain ⟨document, raw⟩ := entry
  obtain ⟨destined, text⟩ := plans
  rw [writeEach]
  unfold writeOne
  rw [destined]
  dsimp only at text ⊢
  rw [← text]
  cases outcome : tree.writeDocument write.1 write.2 with
  | mk result after =>
      cases result with
      | error failure => exact .inl ⟨failure, after, _, rfl, rfl⟩
      | ok value => exact .inr ⟨after, _, rfl, rfl⟩

/-- Documents that have a destination do not end the work for the lack of one. -/
theorem endsRendering_of_failure?
    (planned : List.Forall₂ (Plans project scan evaluation target) documents plan)
    {failure : Failure}
    (fails : (writeEach project scan evaluation target tree documents).failure? = some failure) :
    failure.EndsRendering := by
  induction planned generalizing tree with
  | nil => cases fails
  | @cons entry write rest others plans later ih =>
      rcases writeEach_cons_cases plans tree rest with
        ⟨other, left, notices, ends, work⟩ | ⟨written, notices, -, work⟩
      · rw [work] at fails
        obtain rfl := Option.some.inj fails
        exact (Tree.extends_of_writeDocument ends).2
      · rw [work] at fails
        exact ih fails

end Each

section Planned

variable {tree : Tree} {root document : Path} {names : List Name} {target : RenderTarget}

theorem sends_pathBelow (target : RenderTarget) (root : Path) (filled : names ≠ []) :
    target.Sends root (Discovery.pathBelow root names)
      (Discovery.pathBelow (target.directoryOr root) names) := by
  cases target with
  | inPlace => rfl
  | directory path =>
      exact ⟨.ofNames names, Path.isAbsolute_ofNames names, Discovery.join_ofNames root filled,
        (Discovery.join_ofNames path filled).symm⟩

theorem documents_ofSources {documents : List Path}
    (ascending : documents.Pairwise fun left right => left < right) :
    Writing.documents (.ofSources (.read tree documents)) =
      (documents.filter fun document => cleanPlaceholders tree document ≠ []).filterMap
        tree.source? := by
  have texts : (Scan.ofSources (.read tree documents)).texts.entries =
      documents.filterMap tree.source? := Sources.entries_texts_read ascending
  unfold Writing.documents
  rw [texts, List.filter_filterMap, List.filterMap_filter]
  apply List.filterMap_congr
  intro document member
  have marked := Scan.find?_markers_read tree ascending member
  rw [cleanPlaceholders_eq]
  unfold Tree.source? Tree.clean? at *
  cases isRead : tree.readText document with
  | error error => simp [Except.toOption]
  | ok text =>
      rw [isRead] at marked
      cases markers : Marker.readAll text with
      | error error => simp [markers, marked, Except.toOption]
      | ok found => cases found <;> simp [markers, marked, Except.toOption]

/-- What is written for a document that has a destination and a text. -/
def plannedFor (tree : Tree) (project : Project) (scan : Scan) (evaluation : Evaluation)
    (target : RenderTarget) (document : Path) : Path × String :=
  ((target.destination? project.root document).getD document,
    Rendering.render (outcome? scan evaluation document) project.settings.badges
      ((tree.readText document).toOption.getD ""))

/-- A document with placeholders to be checked is clean. -/
theorem exists_readAll_of_placeholders (holds : cleanPlaceholders tree document ≠ []) :
    ∃ text markers, tree.readText document = .ok text ∧ Marker.readAll text = .ok markers := by
  unfold cleanPlaceholders at holds
  cases isText : tree.readText document with
  | error error =>
      rw [isText] at holds
      exact absurd rfl holds
  | ok text =>
      rw [isText] at holds
      dsimp only at holds
      cases isRead : Marker.readAll text with
      | ok markers => exact ⟨text, markers, rfl, isRead⟩
      | error error =>
          rw [isRead] at holds
          exact absurd rfl holds

variable {project : Project} {discovery : Discovery}

theorem exists_plannedFor (scan : Scan) (evaluation : Evaluation) (target : RenderTarget)
    (found : Discovery.ofTree tree project.settings project.root = .ok discovery)
    (listed : document ∈ discovery.documents) :
    ∃ names, names ≠ [] ∧ document = Discovery.pathBelow project.root names ∧
      plannedFor tree project scan evaluation target document =
        (Discovery.pathBelow (target.directoryOr project.root) names,
          Rendering.render (outcome? scan evaluation document) project.settings.badges
            ((tree.readText document).toOption.getD "")) := by
  obtain ⟨above, names, bytes, -, filled, path, -⟩ := Discovery.exists_names_of_mem found listed
  refine ⟨names, filled, path, ?_⟩
  unfold plannedFor
  rw [path, target.destination?_pathBelow project.root filled]
  rfl

/-- Different documents go to different paths and places. -/
theorem plannedFor_apart (scan : Scan) (evaluation : Evaluation) (target : RenderTarget)
    (found : Discovery.ofTree tree project.settings project.root = .ok discovery)
    {left right : Path} (leftListed : left ∈ discovery.documents)
    (rightListed : right ∈ discovery.documents) (different : ¬ left.Same right) :
    let planned := plannedFor tree project scan evaluation target
    ¬ (planned left).1.Same (planned right).1 ∧
      tree.placeOf (planned left).1 ≠ tree.placeOf (planned right).1 := by
  intro planned
  obtain ⟨names, -, path, isPlan⟩ := exists_plannedFor scan evaluation target found leftListed
  obtain ⟨others, -, otherPath, isOtherPlan⟩ :=
    exists_plannedFor scan evaluation target found rightListed
  have apart : names ≠ others := by
    rintro rfl
    exact different (congrArg Path.components (path.trans otherPath.symm))
  have isLeft : (planned left).1 = _ := congrArg Prod.fst isPlan
  have isRight : (planned right).1 = _ := congrArg Prod.fst isOtherPlan
  rw [isLeft, isRight, tree.placeOf_pathBelow, tree.placeOf_pathBelow]
  constructor
  · intro same
    exact apart (Discovery.eq_of_same_pathBelow same)
  · intro same
    exact apart (List.reverse_injective (List.append_cancel_right same))

/-- What is written for a clean document is planned for it. -/
theorem isPlanned_plannedFor (probe : Probe) (target : RenderTarget)
    (found : Discovery.ofTree tree project.settings project.root = .ok discovery)
    (listed : document ∈ discovery.documents) (holds : cleanPlaceholders tree document ≠ []) :
    let scan := Scan.ofSources (.read tree discovery.documents)
    let evaluation := Evaluation.ofResolution scan.resolution project.root probe
    IsPlanned tree project.root target scan.resolution evaluation project.settings.badges document
      (plannedFor tree project scan evaluation target document) := by
  intro scan evaluation
  have ascending := Discovery.ascending_documents found
  obtain ⟨names, filled, path, isPlan⟩ := exists_plannedFor scan evaluation target found listed
  obtain ⟨text, markers, isText, isRead⟩ := exists_readAll_of_placeholders holds
  have inside : (document, text) ∈ (Sources.read tree discovery.documents).texts.entries :=
    (Sources.mem_texts_iff (ascending.imp Path.not_same_of_lt)).mpr ⟨listed, isText⟩
  obtain ⟨layout, shown, cuts, rendered, shows⟩ := exists_replace_of_isRead project.root probe
    project.settings.badges inside isRead (rfl : document.Same document)
  refine ⟨?_, text, layout, shown, isText, cuts, ?_, shows⟩
  · rw [congrArg Prod.fst isPlan, path]
    exact sends_pathBelow target project.root filled
  · rw [congrArg Prod.snd isPlan, isText]
    exact rendered

/-- Rendering has a plan, which it follows. -/
theorem exists_plan (probe : Probe) (target : RenderTarget)
    (found : Discovery.ofTree tree project.settings project.root = .ok discovery) :
    let scan := Scan.ofSources (.read tree discovery.documents)
    let evaluation := Evaluation.ofResolution scan.resolution project.root probe
    ∃ plan,
      List.Forall₂ (Plans project scan evaluation target) (Writing.documents scan) plan ∧
      IsPlan tree discovery.documents project.root target scan.resolution evaluation
        project.settings.badges plan := by
  intro scan evaluation
  have ascending := Discovery.ascending_documents found
  let chosen := discovery.documents.filter fun document => cleanPlaceholders tree document ≠ []
  let planned := plannedFor tree project scan evaluation target
  have clean (document : Path) (member : document ∈ chosen) :
      document ∈ discovery.documents ∧ cleanPlaceholders tree document ≠ [] := by
    obtain ⟨listed, holds⟩ := List.mem_filter.mp member
    exact ⟨listed, of_decide_eq_true holds⟩
  have apart : chosen.Pairwise fun left right => ¬ (planned left).1.Same (planned right).1 ∧
      tree.placeOf (planned left).1 ≠ tree.placeOf (planned right).1 := by
    refine ((ascending.imp Path.not_same_of_lt).filter _).imp_of_mem ?_
    intro left right leftChosen rightChosen
    exact plannedFor_apart scan evaluation target found (clean left leftChosen).1
      (clean right rightChosen).1
  have sources : Writing.documents scan =
      chosen.map fun document => (document, (tree.readText document).toOption.getD "") := by
    rw [documents_ofSources ascending, ← List.filterMap_eq_map]
    apply List.filterMap_congr
    intro document member
    obtain ⟨text, markers, isText, -⟩ := exists_readAll_of_placeholders (clean document member).2
    unfold Tree.source?
    rw [Function.comp_apply, isText]
    rfl
  refine ⟨chosen.map planned, ?_, ?_, ?_, ?_⟩
  · rw [sources, List.forall₂_map_left_iff, List.forall₂_map_right_iff, List.forall₂_same]
    intro document member
    obtain ⟨names, filled, path, isPlan⟩ :=
      exists_plannedFor scan evaluation target found (clean document member).1
    refine ⟨?_, rfl⟩
    rw [congrArg Prod.fst isPlan, path]
    exact target.destination?_pathBelow project.root filled
  · rw [List.forall₂_map_right_iff, List.forall₂_same]
    intro document member
    obtain ⟨listed, holds⟩ := clean document member
    exact isPlanned_plannedFor probe target found listed holds
  · exact List.pairwise_map.mpr (apart.imp And.left)
  · rw [List.map_map, List.nodup_iff_pairwise_ne, List.pairwise_map]
    exact apart.imp And.right

end Planned

end Writing

end DocMarkers
