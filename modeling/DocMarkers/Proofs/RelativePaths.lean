import DocMarkers.Proofs.DocumentPaths
import DocMarkers.Proofs.SplitTexts

/-! # Paths as seen from a root

What leads from a root to a document is a row of names, and the document is at the root joined with
their path, to the letter (`Discovery.join_ofNames`). Taking the root away from the document gives
that path back (`Discovery.stripPrefix?_pathBelow`), however the root is spelled. So a document is
shown by the path that leads to it from the root (`Discovery.exists_relative`); but a path that is
no text is shown only in part, and different documents may be shown alike.
-/

namespace DocMarkers

/-- The segments that spell names. -/
def Name.segments (names : List Name) : List Bytes :=
  names.map fun name => name.bytes

namespace Path

/-- The path of a row of names. -/
def ofNames (names : List Name) : Path :=
  build .none (Name.segments names)

section Names

variable {names : List Name}

theorem bytes_ofNames (names : List Name) :
    (ofNames names).bytes = Text.joinWith [slash] (Name.segments names) :=
  rfl

theorem segments_ofNames (filled : names ≠ []) :
    (ofNames names).segments = Name.segments names := by
  have clean : ∀ piece ∈ Name.segments names, slash ∉ piece := by
    intro piece member
    obtain ⟨name, -, rfl⟩ := List.mem_map.mp member
    exact name.proper.2.2.2
  have nonempty : Name.segments names ≠ [] := by
    simpa [Name.segments] using filled
  unfold segments
  rw [bytes_ofNames, Text.splitOn_joinWith nonempty clean]

theorem isAbsolute_ofNames (names : List Name) : (ofNames names).isAbsolute = false := by
  unfold isAbsolute
  rw [bytes_ofNames]
  cases names with
  | nil => rfl
  | cons name rest =>
      obtain ⟨filled, -, -, noSlash⟩ := name.proper
      obtain ⟨c, later, chars⟩ := List.exists_cons_of_ne_nil filled
      obtain ⟨tail, joined⟩ := Text.exists_joinWith_cons [slash] name.bytes (Name.segments rest)
      have different : c ≠ slash := by
        intro same
        rw [chars, same] at noSlash
        exact noSlash List.mem_cons_self
      have start : Name.segments (name :: rest) = name.bytes :: Name.segments rest := rfl
      rw [start, joined, chars]
      simpa using different

end Names

/-- A segment stands for a component unless it is idle. -/
theorem ofSegment?_eq_none_iff {segment : Bytes} :
    Component.ofSegment? segment = none ↔ isIdle segment = true := by
  unfold Component.ofSegment? isIdle
  by_cases idle : segment = [] ∨ segment = [dot]
  · simp [idle]
  · by_cases climbs : segment = [dot, dot] <;> simp_all

/-- As many steps as some segments have are those segments. -/
theorem dropSteps_append {body tail : List Bytes} {first : Bytes}
    (starts : tail.head? = some first) (steps : isIdle first = false) :
    dropSteps (body.filterMap Component.ofSegment?).length (body ++ tail) = tail := by
  induction body with
  | nil =>
      cases tail with
      | nil => cases starts
      | cons other rest =>
          obtain rfl := Option.some.inj starts
          simp [dropSteps, steps]
  | cons segment rest ih =>
      cases own : Component.ofSegment? segment with
      | none =>
          unfold dropSteps
          rw [List.filterMap_cons_none own, List.cons_append]
          dsimp only
          rw [if_pos (ofSegment?_eq_none_iff.mp own), ih]
      | some component =>
          have moves : isIdle segment ≠ true := by
            intro idle
            cases (ofSegment?_eq_none_iff.mpr idle).symm.trans own
          unfold dropSteps
          rw [List.filterMap_cons_some own, List.cons_append, List.length_cons]
          dsimp only
          rw [if_neg moves, ih]

theorem dropIdleEnd_of_getLast? {body : List Bytes} {last : Bytes}
    (ends : body.getLast? = some last) (steps : isIdle last = false) : dropIdleEnd body = body := by
  obtain ⟨front, rfl⟩ := List.getLast?_eq_some_iff.mp ends
  simp [dropIdleEnd, steps]

/-- How a path is cut that starts with the segments of a directory: what stands for the components
of the directory is the anchor and what comes before the pieces behind it. -/
theorem exists_anchored_of_base {directory path : Path} {pieces : List Bytes}
    {first : Bytes} (segments : path.segments = directory.base ++ pieces)
    (starts : pieces.head? = some first) (steps : isIdle first = false) :
    ∃ anchor body, path.anchored = (anchor, body ++ pieces) ∧
      directory.components.length =
        anchor.component?.toList.length + (body.filterMap Component.ofSegment?).length ∧
      (directory.components.length = 0 → anchor = .none ∧ body = []) := by
  obtain ⟨rest, rfl⟩ := List.head?_eq_some_iff.mp starts
  obtain ⟨filled, named⟩ : first ≠ [] ∧ first ≠ [dot] := by
    simpa [isIdle] using steps
  rw [← stem_base]
  cases base : directory.base with
  | nil =>
      rw [base] at segments
      exact ⟨.none, [], anchored_of_plain segments filled named, rfl, fun _ => ⟨rfl, rfl⟩⟩
  | cons head body =>
      rw [base, List.cons_append] at segments
      by_cases atRoot : head = []
      · subst atRoot
        refine ⟨.root, body, ?_, ?_, ?_⟩
        · unfold anchored
          rw [segments]
          cases body <;> rfl
        · simp [stem, Anchor.component?, Nat.add_comm]
        · simp [stem]
      · by_cases here : head = [dot]
        · subst here
          refine ⟨.here, [] :: body, ?_, ?_, ?_⟩
          · unfold anchored
            rw [segments]
            cases body <;> rfl
          · simp [stem, Anchor.component?, Component.ofSegment?, Nat.add_comm]
          · simp [stem]
        · have moves : Component.ofSegment? head ≠ none := by
            rw [ne_eq, ofSegment?_eq_none_iff]
            simp [isIdle, atRoot, here]
          obtain ⟨component, own⟩ := Option.ne_none_iff_exists'.mp moves
          refine ⟨.none, head :: body, anchored_of_plain segments atRoot here, ?_, ?_⟩
          · simp [stem, atRoot, here, own, Anchor.component?]
          · simp [stem, atRoot, here, own]

/-- Taking a directory away leaves what follows its segments. -/
theorem stripPrefix?_of_base {directory path : Path} {pieces : List Bytes}
    {first last : Bytes} (segments : path.segments = directory.base ++ pieces)
    (below : directory.components <+: path.components) (starts : pieces.head? = some first)
    (firstSteps : isIdle first = false) (ends : pieces.getLast? = some last)
    (lastSteps : isIdle last = false) :
    stripPrefix? directory path = some (build .none pieces) := by
  obtain ⟨anchor, body, cut, count, none⟩ := exists_anchored_of_base segments starts firstSteps
  unfold stripPrefix?
  rw [if_pos (List.isPrefixOf_iff_prefix.mpr below), cut]
  dsimp only
  cases length : directory.components.length with
  | zero =>
      obtain ⟨rfl, rfl⟩ := none length
      dsimp only
      rw [List.nil_append, dropIdleEnd_of_getLast? ends lastSteps]
  | succ steps =>
      have left : (if anchor.component?.isSome then steps else steps + 1) =
          (body.filterMap Component.ofSegment?).length := by
        rw [length] at count
        cases anchored : anchor.component? <;> simp [anchored] at count ⊢ <;> omega
      dsimp only
      rw [left, dropSteps_append starts firstSteps, dropIdleEnd_of_getLast? ends lastSteps]

end Path

namespace Discovery

variable {root : Path} {names : List Name}

theorem segments_pathBelow (root : Path) (filled : names ≠ []) :
    (pathBelow root names).segments = root.base ++ Name.segments names := by
  induction names generalizing root with
  | nil => exact absurd rfl filled
  | cons name rest ih =>
      cases rest with
      | nil => exact Path.segments_join_name root name
      | cons next rest =>
          have later := ih (root.join ⟨name.bytes⟩) (List.cons_ne_nil next rest)
          rw [Path.base_join_name, List.append_assoc] at later
          exact later

/-- The path of an entry is the root joined with the names that lead down to it. -/
theorem join_ofNames (root : Path) (filled : names ≠ []) :
    root.join (Path.ofNames names) = pathBelow root names := by
  apply Path.eq_of_segments
  rw [Path.segments_join (Path.isAbsolute_ofNames names), Path.segments_ofNames filled,
    segments_pathBelow root filled]

/-- Taking the root away from the path of an entry leaves the names. -/
theorem stripPrefix?_pathBelow (root : Path) (filled : names ≠ []) :
    Path.stripPrefix? root (pathBelow root names) = some (Path.ofNames names) := by
  have moves (name : Name) : Path.isIdle name.bytes = false := by
    simp [Path.isIdle, name.proper.1, name.proper.2.1]
  apply Path.stripPrefix?_of_base (segments_pathBelow root filled)
  · rw [components_pathBelow]
    exact List.prefix_append _ _
  · exact (List.head?_map ..).trans (congrArg (Option.map _) (List.head?_eq_some_head filled))
  · exact moves _
  · exact (List.getLast?_map ..).trans
      (congrArg (Option.map _) (List.getLast?_eq_some_getLast filled))
  · exact moves _

theorem relativeTo_pathBelow (root : Path) (filled : names ≠ []) :
    root.relativeTo (pathBelow root names) = (Path.ofNames names).text := by
  unfold Path.relativeTo
  rw [stripPrefix?_pathBelow root filled]
  rfl

/-- A document is shown by a relative path that leads to it from the root. -/
theorem exists_relative {tree : Tree} {settings : Settings} {discovery : Discovery}
    {document : Path} (found : ofTree tree settings root = .ok discovery)
    (listed : document ∈ discovery.documents) :
    ∃ relative : Path, relative.isAbsolute = false ∧ root.join relative = document ∧
      root.relativeTo document = relative.text := by
  obtain ⟨above, names, bytes, -, filled, path, -⟩ := exists_names_of_mem found listed
  rw [path, relativeTo_pathBelow root filled]
  exact ⟨_, Path.isAbsolute_ofNames names, join_ofNames root filled, rfl⟩

end Discovery

end DocMarkers
