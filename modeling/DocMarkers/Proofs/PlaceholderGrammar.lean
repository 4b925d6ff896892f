import DocMarkers.Proofs.FirstAppearance
import DocMarkers.Proofs.SplitTexts
import DocMarkers.Rendering

/-! # The grammar of placeholders

A text is a row of gaps and placeholders, and `Layout.Cuts` says which rows are cuts of a text: no
gap before a placeholder holds an opening, no body holds a frame, and no opening behind the last
placeholder has a frame after it. Every text has exactly one cut, and `Layout.ofText` finds it
(`Layout.cuts_iff`). An opening has no frame but its first character, so openings do not overlap,
and the first opening of a text is where the first gap ends (`Layout.findOpening?_eq_some_iff`).

Reading and rendering both work on this cut (`placeholders_exact`).
-/

namespace DocMarkers

namespace Placeholder

/-- The letters behind the frame of an opening. -/
def keyword : List Char := "DACDOC".toList

theorem opening_eq : opening = frame :: keyword := rfl

theorem frame_not_mem_keyword : frame ∉ keyword := by decide

/-- An opening inside another one is that one: no opening starts at a later character of it. -/
theorem eq_nil_of_opening_eq_append {first rest after later : List Char}
    (split : opening = first ++ rest) (same : rest ++ after = opening ++ later)
    (nonempty : first ≠ []) : rest = [] := by
  obtain ⟨c, first, rfl⟩ := List.exists_cons_of_ne_nil nonempty
  rw [opening_eq, List.cons_append] at split
  have inKeyword := (List.cons.inj split).2
  cases rest with
  | nil => rfl
  | cons d rest =>
      rw [opening_eq, List.cons_append, List.cons_append] at same
      have isFrame : d = frame := (List.cons.inj same).1
      have member : frame ∈ keyword := by
        rw [inKeyword, ← isFrame]
        exact List.mem_append_right _ List.mem_cons_self
      exact absurd member frame_not_mem_keyword

/-- An opening does not stand behind a shorter shift of itself. -/
theorem eq_nil_of_shift {shift after later : List Char}
    (same : opening ++ after = shift ++ (opening ++ later)) (free : ¬ opening <:+: shift) :
    shift = [] := by
  by_contra nonempty
  rcases List.append_eq_append_iff.mp same with ⟨rest, rfl, -⟩ | ⟨rest, split, same⟩
  · exact free (List.prefix_append _ _).isInfix
  · have ends := eq_nil_of_opening_eq_append split same.symm nonempty
    rw [ends, List.append_nil] at split
    exact free (split ▸ List.infix_rfl)

/-- A text has one gap before its first opening. -/
theorem gap_unique {gap other after later : List Char}
    (same : gap ++ opening ++ after = other ++ opening ++ later) (free : ¬ opening <:+: gap)
    (otherFree : ¬ opening <:+: other) : gap = other ∧ after = later := by
  have gaps : gap = other := by
    rw [List.append_assoc, List.append_assoc] at same
    rcases List.append_eq_append_iff.mp same with ⟨shift, rfl, moved⟩ | ⟨shift, rfl, moved⟩
    · have shiftFree : ¬ opening <:+: shift :=
        fun inside => otherFree (inside.trans (List.suffix_append _ _).isInfix)
      rw [eq_nil_of_shift moved shiftFree, List.append_nil]
    · have shiftFree : ¬ opening <:+: shift :=
        fun inside => free (inside.trans (List.suffix_append _ _).isInfix)
      rw [eq_nil_of_shift moved shiftFree, List.append_nil]
  subst gaps
  exact ⟨rfl, List.append_cancel_left same⟩

/-- What is after any opening of a text is after its first one. -/
theorem suffix_of_first_opening {gap other after later : List Char}
    (same : gap ++ opening ++ after = other ++ opening ++ later) (free : ¬ opening <:+: gap) :
    later <:+ after := by
  rw [List.append_assoc, List.append_assoc] at same
  rcases List.append_eq_append_iff.mp same with ⟨shift, rfl, moved⟩ | ⟨shift, rfl, moved⟩
  · have lengths := congrArg List.length moved
    simp only [List.length_append] at lengths
    have laterEnds : later <:+ opening ++ after := by
      rw [moved]
      exact (List.suffix_append opening later).trans (List.suffix_append shift _)
    exact List.suffix_of_suffix_length_le laterEnds (List.suffix_append opening after) (by omega)
  · have shiftFree : ¬ opening <:+: shift :=
      fun inside => free (inside.trans (List.suffix_append _ _).isInfix)
    rw [eq_nil_of_shift moved shiftFree, List.nil_append] at moved
    have same := List.append_cancel_left moved
    exact same ▸ List.suffix_rfl

/-- A text is a placeholder when it has a body. -/
theorem body?_eq_some_iff {raw body : List Char} : body? raw = some body ↔ raw = ofBody body := by
  unfold body? ofBody
  simp only [Option.bind_eq_bind, Option.bind_eq_some_iff, Text.dropPrefix?_eq_some_iff]
  constructor
  · rintro ⟨rest, rfl, closed⟩
    obtain ⟨ends, same⟩ := Option.ite_none_right_eq_some.mp closed
    rw [← Option.some.inj same, List.append_assoc, List.dropLast_append_getLast? frame ends]
  · rintro rfl
    exact ⟨body ++ [frame], List.append_assoc _ _ _, by simp⟩

end Placeholder

namespace Layout

theorem not_prefix_of_dropPrefix? {text : List Char}
    (closed : Text.dropPrefix? Placeholder.opening text = none) :
    ¬ Placeholder.opening <+: text := by
  rintro ⟨after, starts⟩
  rw [Text.dropPrefix?_eq_some_iff.mpr starts.symm] at closed
  cases closed

theorem findOpening?_eq_none_iff {text : List Char} :
    findOpening? text = none ↔ ¬ Placeholder.opening <:+: text := by
  induction text with
  | nil => simp [findOpening?, Placeholder.opening_eq]
  | cons c rest ih =>
      rw [List.infix_cons_iff, findOpening?]
      cases opens : Text.dropPrefix? Placeholder.opening (c :: rest) with
      | some after =>
          have starts := Text.dropPrefix?_eq_some_iff.mp opens
          simp [starts]
      | none =>
          have later := not_prefix_of_dropPrefix? opens
          simp [later, ih]

/-- No opening is passed over. -/
theorem not_opening_infix_of_findOpening? {text gap after : List Char}
    (found : findOpening? text = some (gap, after)) : ¬ Placeholder.opening <:+: gap := by
  induction text generalizing gap with
  | nil => simp [findOpening?] at found
  | cons c rest ih =>
      rw [findOpening?] at found
      cases opens : Text.dropPrefix? Placeholder.opening (c :: rest) with
      | some behind =>
          simp only [opens, Option.some.injEq, Prod.mk.injEq] at found
          rw [← found.1]
          simp [Placeholder.opening_eq]
      | none =>
          simp only [opens, Option.map_eq_some_iff, Prod.exists, Prod.mk.injEq] at found
          obtain ⟨inner, behind, innerFound, rfl, rfl⟩ := found
          have whole := findOpening?_eq_some innerFound
          rw [List.infix_cons_iff]
          rintro (starts | inside)
          · refine not_prefix_of_dropPrefix? opens (starts.trans ?_)
            rw [whole, List.append_assoc]
            exact List.prefix_append (c :: inner) _
          · exact ih innerFound inside

/-- The first opening of a text is the one behind a gap that holds none. -/
theorem findOpening?_eq_some_iff {text gap after : List Char} :
    findOpening? text = some (gap, after) ↔
      text = gap ++ Placeholder.opening ++ after ∧ ¬ Placeholder.opening <:+: gap := by
  constructor
  · intro found
    exact ⟨findOpening?_eq_some found, not_opening_infix_of_findOpening? found⟩
  · rintro ⟨whole, free⟩
    cases found : findOpening? text with
    | none => exact absurd ⟨gap, after, whole.symm⟩ (findOpening?_eq_none_iff.mp found)
    | some cut =>
        obtain ⟨other, later⟩ := cut
        have same := (findOpening?_eq_some found).symm.trans whole
        obtain ⟨rfl, rfl⟩ :=
          Placeholder.gap_unique same (not_opening_infix_of_findOpening? found) free
        rfl

/-- The first placeholder of a text starts at the first opening and ends at the first frame after
it. -/
theorem next?_eq_some_iff {text gap body rest : List Char} :
    next? text = some (gap, body, rest) ↔
      text = gap ++ Placeholder.ofBody body ++ rest ∧ ¬ Placeholder.opening <:+: gap ∧
        Placeholder.frame ∉ body := by
  have shape : gap ++ Placeholder.ofBody body ++ rest =
      gap ++ Placeholder.opening ++ (body ++ Placeholder.frame :: rest) := by
    simp [Placeholder.ofBody]
  rw [shape]
  unfold next?
  simp only [Option.bind_eq_bind, Option.bind_eq_some_iff, Option.pure_def, Option.some.injEq,
    Prod.mk.injEq, Prod.exists, findOpening?_eq_some_iff, Text.cutFirst?_eq_some_iff]
  constructor
  · rintro ⟨_, _, ⟨rfl, free⟩, _, _, ⟨rfl, absent⟩, rfl, rfl, rfl⟩
    exact ⟨rfl, free, absent⟩
  · rintro ⟨rfl, free, absent⟩
    exact ⟨_, _, ⟨rfl, free⟩, _, _, ⟨rfl, absent⟩, rfl, rfl, rfl⟩

/-- A text holds no placeholder when no opening of it has a frame after it. -/
theorem next?_eq_none_iff {text : List Char} :
    next? text = none ↔ ∀ before after, text = before ++ Placeholder.opening ++ after →
      Placeholder.frame ∉ after := by
  cases found : findOpening? text with
  | none =>
      have absent := findOpening?_eq_none_iff.mp found
      have finished : next? text = none := by
        unfold next?
        rw [found]
        rfl
      refine iff_of_true finished ?_
      intro before after whole
      exact absurd ⟨before, after, whole.symm⟩ absent
  | some cut =>
      obtain ⟨gap, opened⟩ := cut
      obtain ⟨whole, free⟩ := findOpening?_eq_some_iff.mp found
      have closes : next? text = none ↔ Placeholder.frame ∉ opened := by
        rw [← Text.cutFirst?_eq_none_iff]
        unfold next?
        cases closed : Text.cutFirst? Placeholder.frame opened <;> simp [found, closed]
      rw [closes]
      constructor
      · intro absent before after split inside
        have ends := Placeholder.suffix_of_first_opening (whole.symm.trans split) free
        exact absent (ends.subset inside)
      · intro unclosed
        exact unclosed gap opened whole

theorem ofText_of_none {text : List Char} (finished : next? text = none) :
    ofText text = ⟨[], text⟩ := by
  rw [ofText]
  split
  · rfl
  · next found =>
    rw [finished] at found
    cases found

theorem ofText_of_some {text gap body rest : List Char}
    (found : next? text = some (gap, body, rest)) :
    ofText text = ⟨(gap, body) :: (ofText rest).cells, (ofText rest).tail⟩ := by
  rw [ofText]
  split
  · next finished =>
    rw [finished] at found
    cases found
  · next other =>
    rw [found] at other
    cases other
    rfl

/-- The text of a row of gaps and placeholders, with something else in the place of each
placeholder. -/
def replace (layout : Layout) (shown : String → String) : List Char :=
  (layout.cells.flatMap fun (gap, body) =>
    gap ++ (shown (String.ofList (Placeholder.ofBody body))).toList) ++ layout.tail

/-- Putting each placeholder in its own place gives the text. -/
theorem replace_id (layout : Layout) : layout.replace id = layout.text := by
  simp [replace, text]

/-- Only what is put in the place of a placeholder of the text matters. -/
theorem replace_congr {layout : Layout} {shown other : String → String}
    (same : ∀ raw ∈ layout.placeholders, shown raw = other raw) :
    layout.replace shown = layout.replace other := by
  have cells (cell : List Char × List Char) (member : cell ∈ layout.cells) :
      cell.1 ++ (shown (String.ofList (Placeholder.ofBody cell.2))).toList =
        cell.1 ++ (other (String.ofList (Placeholder.ofBody cell.2))).toList := by
    have listed : String.ofList (Placeholder.ofBody cell.2) ∈ layout.placeholders :=
      List.mem_map_of_mem member
    rw [same _ listed]
  exact congrArg (· ++ layout.tail) (List.flatMap_congr cells)

/-- A row of gaps and placeholders is a cut of a text by the grammar. -/
structure Cuts (layout : Layout) (text : List Char) : Prop where
  text_eq : layout.text = text
  gaps : ∀ cell ∈ layout.cells, ¬ Placeholder.opening <:+: cell.1
  bodies : ∀ cell ∈ layout.cells, Placeholder.frame ∉ cell.2
  tail : ∀ before after, layout.tail = before ++ Placeholder.opening ++ after →
    Placeholder.frame ∉ after

/-- The first placeholder of a text and a cut of what follows it are a cut of the text. -/
theorem Cuts.cons {layout : Layout} {text gap body rest : List Char}
    (found : next? text = some (gap, body, rest)) (cuts : layout.Cuts rest) :
    Cuts ⟨(gap, body) :: layout.cells, layout.tail⟩ text := by
  obtain ⟨whole, free, absent⟩ := next?_eq_some_iff.mp found
  refine ⟨?_, List.forall_mem_cons.mpr ⟨free, cuts.gaps⟩,
    List.forall_mem_cons.mpr ⟨absent, cuts.bodies⟩, cuts.tail⟩
  rw [whole, ← cuts.text_eq]
  simp [Layout.text]

theorem cuts_ofText (text : List Char) : (ofText text).Cuts text := by
  fun_induction ofText text with
  | case1 text finished =>
      exact ⟨by simp [Layout.text], by simp, by simp, next?_eq_none_iff.mp finished⟩
  | case2 text gap body rest found later ih => exact .cons found ih

/-- A cut of a text is found by looking for its placeholders. The induction is on the cells of the
cut, each of which is the first placeholder of what is left. -/
theorem Cuts.eq_ofText {layout : Layout} {text : List Char} (cuts : layout.Cuts text) :
    ofText text = layout := by
  obtain ⟨cells, tail⟩ := layout
  obtain ⟨rfl, gaps, bodies, unclosed⟩ := cuts
  induction cells with
  | nil => exact ofText_of_none (next?_eq_none_iff.mpr unclosed)
  | cons cell cells ih =>
      obtain ⟨gap, body⟩ := cell
      have free := gaps _ List.mem_cons_self
      have absent := bodies _ List.mem_cons_self
      have rest := ih (fun other member => gaps other (List.mem_cons_of_mem _ member))
        (fun other member => bodies other (List.mem_cons_of_mem _ member)) unclosed
      have found : next? (Layout.text ⟨(gap, body) :: cells, tail⟩) =
          some (gap, body, Layout.text ⟨cells, tail⟩) := by
        refine next?_eq_some_iff.mpr ⟨?_, free, absent⟩
        simp [text]
      rw [ofText_of_some found, rest]

/-- **Cutting.** A text has one cut by the grammar, and it is the one that is made. -/
theorem cuts_iff {layout : Layout} {text : List Char} :
    layout.Cuts text ↔ ofText text = layout := by
  constructor
  · exact Cuts.eq_ofText
  · rintro rfl
    exact cuts_ofText text

end Layout

end DocMarkers
