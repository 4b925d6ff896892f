import DocMarkers.Proofs.Clauses

/-! # The placeholders of a rendered text

What gives way to a placeholder holds no frame, because an argument is a part of a body
(`Rendering.frame_not_mem_replacement`). So an opening of a rendered text starts in a gap of the
text, and it can only reach out of that gap where the gap ends in a letter of an opening. Where the
replaced placeholders stand clear of such letters, the gaps that grow together hold no opening
(`Placeholder.IsSealed`), and the rendered text is cut at the placeholders that were left
(`Layout.cuts_fill`).

Such a text shows no new placeholder (`rendering_adds_no_placeholder`).
-/

namespace DocMarkers

namespace Placeholder

/-- No opening stands in a text, and none starts at its end. -/
structure IsSealed (text : List Char) : Prop where
  free : ¬ opening <:+: text
  ends : ∀ start, start <:+ text → start <+: opening → start = []

variable {text rest shown before after : List Char}

theorem isSealed_nil : IsSealed [] where
  free := by simp [opening_eq]
  ends := fun _ isSuffix _ => List.suffix_nil.mp isSuffix

/-- An opening behind a sealed text is one of what follows the text. -/
theorem IsSealed.exists_of_append (isSealed : IsSealed text)
    (whole : text ++ rest = before ++ opening ++ after) :
    ∃ front, rest = front ++ opening ++ after := by
  rw [List.append_assoc] at whole
  rcases List.append_eq_append_iff.mp whole with ⟨front, -, split⟩ | ⟨start, split, same⟩
  · exact ⟨front, by rw [split, List.append_assoc]⟩
  · have isSuffix : start <:+ text := ⟨before, split.symm⟩
    rcases List.append_eq_append_iff.mp same with ⟨more, inside, -⟩ | ⟨more, cut, reached⟩
    · have stands : opening <:+: text := by
        rw [split, inside, ← List.append_assoc]
        exact List.infix_append before opening more
      exact absurd stands isSealed.free
    · have none := isSealed.ends start isSuffix ⟨more, cut.symm⟩
      subst none
      exact ⟨[], same.symm⟩

theorem IsSealed.not_infix_append (isSealed : IsSealed text) (free : ¬ opening <:+: rest) :
    ¬ opening <:+: text ++ rest := by
  intro inside
  obtain ⟨before, after, whole⟩ := inside
  obtain ⟨front, split⟩ := isSealed.exists_of_append whole.symm
  exact free ⟨front, after, split.symm⟩

theorem mem_opening_iff {c : Char} : c ∈ opening ↔ c ∈ ['!', 'D', 'A', 'C', 'O'] := by
  have letters : opening = ['!', 'D', 'A', 'C', 'D', 'O', 'C'] := rfl
  simp only [letters, List.mem_cons, List.not_mem_nil]
  tauto

/-- The last character of what a text ends in is that of the text. -/
theorem exists_getLast?_of_suffix {start : List Char} (isSuffix : start <:+ text)
    (filled : start ≠ []) :
    ∃ c ∈ start, text.getLast? = some c := by
  obtain ⟨front, rfl⟩ := isSuffix
  refine ⟨start.getLast filled, List.getLast_mem filled, ?_⟩
  rw [List.getLast?_append_of_ne_nil _ filled, List.getLast?_eq_some_getLast filled]

/-- A text that ends in no letter of an opening is sealed by one without a frame. -/
theorem isSealed_append (free : ¬ opening <:+: text)
    (clear : ∀ c, text.getLast? = some c → c ∉ opening) (unframed : frame ∉ shown) :
    IsSealed (text ++ shown) where
  free := by
    rw [List.infix_append_iff_ne_nil]
    rintro (inside | inside | ⟨start, rest, filled, -, split, isSuffix, -⟩)
    · exact free inside
    · exact unframed (inside.subset List.mem_cons_self)
    · obtain ⟨c, member, last⟩ := exists_getLast?_of_suffix isSuffix filled
      apply clear c last
      rw [split]
      exact List.mem_append_left _ member
  ends := by
    intro start isSuffix isPrefix
    by_contra filled
    have framed : frame ∈ start := by
      obtain ⟨more, split⟩ := isPrefix
      obtain ⟨c, rest, rfl⟩ := List.exists_cons_of_ne_nil filled
      rw [opening_eq, List.cons_append] at split
      exact (List.cons.inj split).1 ▸ List.mem_cons_self
    obtain ⟨front, whole⟩ := isSuffix
    -- The start of an opening reaches back into the text, or stands in what is shown.
    rcases List.append_eq_append_iff.mp whole with ⟨letters, split, same⟩ | ⟨more, -, split⟩
    · by_cases reaches : letters = []
      · rw [same, reaches] at framed
        exact unframed framed
      · obtain ⟨c, member, last⟩ := exists_getLast?_of_suffix ⟨front, split.symm⟩ reaches
        apply clear c last
        apply isPrefix.subset
        rw [same]
        exact List.mem_append_left _ member
    · apply unframed
      rw [split]
      exact List.mem_append_right _ framed

end Placeholder

namespace Layout

/-- Every chosen placeholder starts the text, or follows a character that no opening holds. -/
def StandClear (layout : Layout) (chosen : String → Prop) : Prop :=
  ∀ front gap body rest, layout.cells = front ++ (gap, body) :: rest →
    chosen (String.ofList (Placeholder.ofBody body)) →
      ∀ c, (Layout.text ⟨front, gap⟩).getLast? = some c → c ∉ ['!', 'D', 'A', 'C', 'O']

/-- A row of gaps and placeholders behind a text, where some placeholders give way to a text and
become a part of a gap. -/
def fill (shown? : String → Option String) (lead : List Char) :
    List (List Char × List Char) → (tail : List Char) → Layout
  | [], tail => ⟨[], lead ++ tail⟩
  | (gap, body) :: rest, tail =>
    match shown? (String.ofList (Placeholder.ofBody body)) with
    | none =>
      let later := fill shown? [] rest tail
      ⟨(lead ++ gap, body) :: later.cells, later.tail⟩
    | some shown => fill shown? (lead ++ gap ++ shown.toList) rest tail

section Fill

variable {shown? : String → Option String} {lead : List Char}
  {cells : List (List Char × List Char)} {tail : List Char}

theorem text_fill :
    (fill shown? lead cells tail).text =
      lead ++ Layout.replace ⟨cells, tail⟩ fun raw => (shown? raw).getD raw := by
  induction cells generalizing lead with
  | nil => simp [fill, Layout.text, replace]
  | cons cell rest ih =>
      obtain ⟨gap, body⟩ := cell
      unfold fill
      cases own : shown? (String.ofList (Placeholder.ofBody body)) with
      | none =>
          have later := @ih []
          unfold Layout.text replace at later ⊢
          simp only [List.flatMap_cons, List.append_assoc, later, own, Option.getD_none,
            String.toList_ofList, List.nil_append]
      | some shown =>
          have later := @ih (lead ++ gap ++ shown.toList)
          unfold replace at later ⊢
          simp only [List.flatMap_cons, List.append_assoc, own, Option.getD_some] at later ⊢
          exact later

/-- The placeholders that give way are gone, and no other. -/
theorem placeholders_fill :
    (fill shown? lead cells tail).placeholders =
      (Layout.placeholders ⟨cells, tail⟩).filter fun raw => (shown? raw).isNone := by
  induction cells generalizing lead with
  | nil => rfl
  | cons cell rest ih =>
      obtain ⟨gap, body⟩ := cell
      unfold fill
      unfold placeholders at ih ⊢
      rw [List.map_cons]
      cases own : shown? (String.ofList (Placeholder.ofBody body)) with
      | none =>
          rw [List.filter_cons_of_pos (by rw [own]; rfl), ← @ih []]
          rfl
      | some shown =>
          rw [List.filter_cons_of_neg (by simp [own])]
          exact ih

/-- What a row of cells has to be for a filled row to be a cut: a cut itself, with texts that hold
no frame, and with letters of an opening before no placeholder that gives way. Only the first one
may have nothing before it. -/
structure IsFillable (shown? : String → Option String) (lead : List Char)
    (cells : List (List Char × List Char)) (tail : List Char) : Prop where
  gaps : ∀ cell ∈ cells, ¬ Placeholder.opening <:+: cell.1
  bodies : ∀ cell ∈ cells, Placeholder.frame ∉ cell.2
  unclosed : ∀ before after, tail = before ++ Placeholder.opening ++ after →
    Placeholder.frame ∉ after
  unframed : ∀ cell ∈ cells, ∀ shown,
    shown? (String.ofList (Placeholder.ofBody cell.2)) = some shown →
      Placeholder.frame ∉ shown.toList
  first : ∀ gap body rest, cells = (gap, body) :: rest →
    shown? (String.ofList (Placeholder.ofBody body)) ≠ none →
      ∀ c, (lead ++ gap).getLast? = some c → c ∉ Placeholder.opening
  later : ∀ cell ∈ cells.tail, shown? (String.ofList (Placeholder.ofBody cell.2)) ≠ none →
    ∃ c, cell.1.getLast? = some c ∧ c ∉ Placeholder.opening

theorem IsFillable.rest {cell : List Char × List Char} {rest : List (List Char × List Char)}
    (fillable : IsFillable shown? lead (cell :: rest) tail) (other : List Char) :
    IsFillable shown? other rest tail where
  gaps := (List.forall_mem_cons.mp fillable.gaps).2
  bodies := (List.forall_mem_cons.mp fillable.bodies).2
  unclosed := fillable.unclosed
  unframed := (List.forall_mem_cons.mp fillable.unframed).2
  first := by
    intro gap body others split isShown c last
    subst split
    obtain ⟨ends, isLast, clear⟩ := fillable.later _ List.mem_cons_self isShown
    have same : (other ++ gap).getLast? = some ends := by
      rw [List.getLast?_append, isLast]
      rfl
    exact Option.some.inj (same.symm.trans last) ▸ clear
  later := fun other member => fillable.later other (List.mem_of_mem_tail member)

/-- A filled row is a cut of its text. The induction is on the cells, and the text behind which they
stand is sealed. -/
theorem cuts_fill (isSealed : Placeholder.IsSealed lead)
    (fillable : IsFillable shown? lead cells tail) :
    (fill shown? lead cells tail).Cuts (fill shown? lead cells tail).text := by
  induction cells generalizing lead with
  | nil =>
      refine ⟨rfl, nofun, nofun, ?_⟩
      intro before after whole
      obtain ⟨front, split⟩ := isSealed.exists_of_append whole
      exact fillable.unclosed front after split
  | cons cell rest ih =>
      obtain ⟨gap, body⟩ := cell
      have free : ¬ Placeholder.opening <:+: lead ++ gap :=
        isSealed.not_infix_append (fillable.gaps _ List.mem_cons_self)
      unfold fill
      cases own : shown? (String.ofList (Placeholder.ofBody body)) with
      | none =>
          have later := ih Placeholder.isSealed_nil (fillable.rest [])
          have unframed := (List.forall_mem_cons.mp fillable.bodies).1
          exact ⟨rfl, List.forall_mem_cons.mpr ⟨free, later.gaps⟩,
            List.forall_mem_cons.mpr ⟨unframed, later.bodies⟩, later.tail⟩
      | some shown =>
          have clear := fillable.first gap body rest rfl (own ▸ Option.some_ne_none shown)
          have unframed := fillable.unframed _ List.mem_cons_self shown own
          exact ih (Placeholder.isSealed_append free clear unframed) (fillable.rest _)

end Fill

/-- The last character before a gap that is empty is the frame of the placeholder before it. -/
theorem getLast?_text {cells : List (List Char × List Char)} {gap : List Char}
    (filled : cells ≠ []) :
    (Layout.text ⟨cells, gap⟩).getLast? = gap.getLast?.or (some Placeholder.frame) := by
  obtain ⟨before, last, rfl⟩ := (List.eq_nil_or_concat cells).resolve_left filled
  simp [Layout.text, Placeholder.ofBody, List.getLast?_cons]

/-- The character before a placeholder that stands clear ends its gap, unless the placeholder starts
the text: one right behind another would follow a frame. -/
theorem StandClear.isFillable {layout : Layout} {text : List Char} {shown? : String → Option String}
    (cuts : layout.Cuts text) (clear : layout.StandClear fun raw => shown? raw ≠ none)
    (unframed : ∀ cell ∈ layout.cells, ∀ shown,
      shown? (String.ofList (Placeholder.ofBody cell.2)) = some shown →
        Placeholder.frame ∉ shown.toList) :
    IsFillable shown? [] layout.cells layout.tail where
  gaps := cuts.gaps
  bodies := cuts.bodies
  unclosed := cuts.tail
  unframed := unframed
  first := by
    intro gap body rest split isShown c last inside
    exact clear [] gap body rest split isShown c last (Placeholder.mem_opening_iff.mp inside)
  later := by
    intro cell member isShown
    obtain ⟨gap, body⟩ := cell
    obtain ⟨front, rest, split⟩ := List.append_of_mem member
    have filled : layout.cells ≠ [] := by
      intro empty
      rw [empty] at member
      cases member
    obtain ⟨first, others, whole⟩ := List.exists_cons_of_ne_nil filled
    rw [whole, List.tail_cons] at split
    rw [split] at whole
    have apart (c : Char) (last : gap.getLast?.or (some Placeholder.frame) = some c) :
        c ∉ Placeholder.opening := by
      rw [← getLast?_text (List.cons_ne_nil first front)] at last
      rw [Placeholder.mem_opening_iff]
      exact clear (first :: front) gap body rest whole isShown c last
    cases ends : gap.getLast? with
    | none =>
        rw [ends] at apart
        exact absurd List.mem_cons_self (apart Placeholder.frame rfl)
    | some c =>
        rw [ends] at apart
        exact ⟨c, rfl, apart c rfl⟩

end Layout

namespace Marker

/-- The argument of a marker is a part of the body of its placeholder. -/
theorem argument_subset {raw argument : String} {body : List Char} {marker : Marker}
    (framed : raw.toList = Placeholder.ofBody body) (isRead : read raw = .ok marker)
    (caption : marker.argument? = some argument) : argument.toList ⊆ body := by
  rcases read_cases framed with ⟨-, other, same, isOf⟩ | ⟨fault, -, fails⟩ | ⟨-, -, fails⟩
  · obtain rfl := Except.ok.inj (isRead.symm.trans same)
    have first := isOf.argument
    rw [caption] at first
    obtain ⟨clause, member, isBare⟩ := List.exists_of_findSome?_eq_some first.symm
    obtain ⟨texts, hasItems, spelled⟩ := Clause.ofBody_eq_iff.mp (rfl : Clause.ofBody body = _)
    obtain ⟨text, inside, spells⟩ := exists_mem_of_forall₂ spelled member
    cases spells with
    | parameter => cases isBare
    | bare =>
        obtain rfl := Option.some.inj isBare
        exact hasItems.subset inside
  · cases isRead.symm.trans fails
  · cases isRead.symm.trans fails

end Marker

/-- A text without a placeholder stays as it is. -/
theorem Rendering.render_of_placeholders_eq_nil {outcome? : String → Option Outcome}
    {badges : Badges} {text : String} (free : Marker.placeholders text = []) :
    render outcome? badges text = text := by
  have kept : (Layout.ofText text.toList).replace
      (fun raw => (outcome? raw).elim raw (replacement badges raw)) =
        (Layout.ofText text.toList).replace id := by
    apply Layout.replace_congr
    intro raw member
    have listed : raw ∈ Marker.placeholders text := member
    rw [free] at listed
    cases listed
  rw [render_eq_replace, kept, Layout.replace_id, Layout.text_ofText, String.ofList_toList]

namespace Rendering

variable {outcome? : String → Option Outcome} {badges : Badges} {text : String}

/-- What a placeholder gives way to holds no frame. -/
theorem frame_not_mem_replacement {body : List Char} {outcome : Outcome}
    (unframed : Placeholder.frame ∉ body)
    (clean : ∀ badge ∈ [badges.passed, badges.failed, badges.indeterminate],
      Placeholder.frame ∉ badge.toList) :
    Placeholder.frame ∉
      (replacement badges (String.ofList (Placeholder.ofBody body)) outcome).toList := by
  have badge : Placeholder.frame ∉ (badges.ofOutcome outcome).toList := by
    cases outcome <;> exact clean _ (by simp [Badges.ofOutcome])
  cases isRead : Marker.read (String.ofList (Placeholder.ofBody body)) with
  | error error =>
      unfold replacement
      rw [isRead]
      exact badge
  | ok marker =>
      rw [replacement_of_read isRead]
      cases caption : marker.argument? with
      | none => exact badge
      | some argument =>
          have part := Marker.argument_subset String.toList_ofList isRead caption
          simp only [String.toList_append, List.mem_append, not_or]
          exact ⟨⟨fun inside => unframed (part inside), by decide⟩, badge⟩

/-- The rendered text is cut where the text was, except at the placeholders that gave way. -/
theorem ofText_render
    (clean : ∀ badge ∈ [badges.passed, badges.failed, badges.indeterminate],
      Placeholder.frame ∉ badge.toList)
    (clear : (Layout.ofText text.toList).StandClear fun raw => outcome? raw ≠ none) :
    Layout.ofText (render outcome? badges text).toList =
      Layout.fill (fun raw => (outcome? raw).map (replacement badges raw)) []
        (Layout.ofText text.toList).cells (Layout.ofText text.toList).tail := by
  have cuts := Layout.cuts_ofText text.toList
  have shows (raw : String) :
      (outcome? raw).map (replacement badges raw) ≠ none ↔ outcome? raw ≠ none := by
    rw [ne_eq, Option.map_eq_none_iff]
  have fillable : Layout.IsFillable (fun raw => (outcome? raw).map (replacement badges raw)) []
      (Layout.ofText text.toList).cells (Layout.ofText text.toList).tail := by
    apply Layout.StandClear.isFillable cuts
    · simp only [shows]
      exact clear
    · intro cell member shown isShown
      obtain ⟨outcome, -, rfl⟩ := Option.map_eq_some_iff.mp isShown
      exact frame_not_mem_replacement (cuts.bodies cell member) clean
  have whole : (Layout.fill (fun raw => (outcome? raw).map (replacement badges raw)) []
      (Layout.ofText text.toList).cells (Layout.ofText text.toList).tail).text =
        (render outcome? badges text).toList := by
    rw [Layout.text_fill, List.nil_append, render_eq_replace, String.toList_ofList]
    congr 1
    funext raw
    cases outcome? raw <;> rfl
  rw [← Layout.cuts_iff, ← whole]
  exact Layout.cuts_fill Placeholder.isSealed_nil fillable

end Rendering

/-- **Rendering twice.** Where no badge holds a frame and every placeholder with an outcome starts
the text or follows a character that is in no opening, the placeholders of the rendered text are
those without an outcome, in order. So when all have one, the rendered text shows no marker, and
rendering it once more changes nothing. -/
theorem rendering_adds_no_placeholder {text : String} {outcome? : String → Option Outcome}
    {badges : Badges}
    (clean : ∀ badge ∈ [badges.passed, badges.failed, badges.indeterminate], '!' ∉ badge.toList)
    (clear : (Layout.ofText text.toList).StandClear fun raw => outcome? raw ≠ none) :
    let rendered := Rendering.render outcome? badges text
    Marker.placeholders rendered =
        (Marker.placeholders text).filter (fun raw => (outcome? raw).isNone) ∧
      ((∀ raw ∈ Marker.placeholders text, outcome? raw ≠ none) →
        Marker.readAll rendered = .ok [] ∧ Marker.readEach rendered = [] ∧
          ∀ otherOutcome? otherBadges,
            Rendering.render otherOutcome? otherBadges rendered = rendered) := by
  intro rendered
  have left : Marker.placeholders rendered =
      (Marker.placeholders text).filter (fun raw => (outcome? raw).isNone) := by
    unfold Marker.placeholders
    rw [Rendering.ofText_render clean clear, Layout.placeholders_fill]
    simp only [Option.isNone_map]
  refine ⟨left, ?_⟩
  intro known
  have free : Marker.placeholders rendered = [] := by
    rw [left, List.filter_eq_nil_iff]
    intro raw member
    rw [Option.isNone_iff_eq_none]
    exact known raw member
  refine ⟨?_, ?_, ?_⟩
  · unfold Marker.readAll
    rw [free]
    rfl
  · unfold Marker.readEach
    rw [free]
    rfl
  · intro otherOutcome? otherBadges
    exact Rendering.render_of_placeholders_eq_nil free

/-- A text with a placeholder at its start, one behind a blank, and an opening that nothing
closes. -/
def spacedText : String :=
  "!DACDOC a.md! and !DACDOC b.md! !DACDOC"

theorem ofText_spacedText :
    Layout.ofText spacedText.toList =
      ⟨[([], " a.md".toList), (" and ".toList, " b.md".toList)], " !DACDOC".toList⟩ := by
  decide +kernel

theorem standClear_spacedText (chosen : String → Prop) :
    (Layout.ofText spacedText.toList).StandClear chosen := by
  rw [ofText_spacedText]
  intro front gap body rest split _ c last
  match front with
  | [] =>
      obtain ⟨rfl, -⟩ := Prod.mk.inj (List.cons.inj split).1
      cases last
  | [first] =>
      obtain ⟨rfl, later⟩ := List.cons.inj split
      obtain ⟨rfl, -⟩ := Prod.mk.inj (List.cons.inj later).1
      have blank : c = ' ' := (Option.some.inj last).symm
      rw [blank]
      decide
  | first :: second :: third =>
      have lengths := congrArg List.length split
      simp only [List.length_append, List.length_cons, List.length_nil] at lengths
      omega

theorem rendering_adds_no_placeholder_to_spacedText :
    let badges : Badges := {}
    let outcome? raw := if raw = "!DACDOC a.md!" then some Outcome.passed else none
    (∀ badge ∈ [badges.passed, badges.failed, badges.indeterminate], '!' ∉ badge.toList) ∧
      (Layout.ofText spacedText.toList).StandClear (fun raw => outcome? raw ≠ none) ∧
      Marker.placeholders (Rendering.render outcome? badges spacedText) = ["!DACDOC b.md!"] ∧
      ∀ otherOutcome? otherBadges,
        let rendered := Rendering.render (fun _ => some .passed) badges spacedText
        Rendering.render otherOutcome? otherBadges rendered = rendered := by
  intro badges outcome?
  have clean : ∀ badge ∈ [badges.passed, badges.failed, badges.indeterminate],
      '!' ∉ badge.toList := by
    decide
  have clear := standClear_spacedText fun raw => outcome? raw ≠ none
  refine ⟨clean, clear, ?_, ?_⟩
  · have left : (Marker.placeholders spacedText).filter (fun raw => (outcome? raw).isNone) =
        ["!DACDOC b.md!"] := by
      decide +kernel
    exact (rendering_adds_no_placeholder clean clear).1.trans left
  · have known (raw : String) (_ : raw ∈ Marker.placeholders spacedText) :
        some Outcome.passed ≠ none := Option.some_ne_none _
    exact ((rendering_adds_no_placeholder clean (standClear_spacedText _)).2 known).2.2

end DocMarkers
