import DocMarkers.Proofs.PlaceholderGrammar

/-! # Reading the placeholders of a text

A text that is a placeholder is read as a marker with that text, or has a fault; only a text that is
no placeholder is refused as such (`Marker.read_eq_notAPlaceholder_iff`). The markers of a text are
read from all its placeholders, in the order in which these first appear (`Marker.AreRead`,
`Marker.readAll_eq_ok_iff`), unless one cannot be read: then the first such placeholder gives the
error (`Marker.readAll_eq_error_iff`).

`placeholders_exact` says all this of the one cut of the text that the grammar allows, together with
what rendering makes of it.
-/

namespace DocMarkers

section Traversal

variable {α β ε : Type} {read : α → Except ε β} {first : α} {rest list : List α}

theorem mapM_cons_of_error {error : ε} (fails : read first = .error error) :
    (first :: rest).mapM read = .error error := by
  rw [List.mapM_cons, fails]
  rfl

theorem mapM_cons_of_ok {result : β} (isRead : read first = .ok result) :
    (first :: rest).mapM read = (rest.mapM read).map (result :: ·) := by
  rw [List.mapM_cons, isRead]
  cases rest.mapM read <;> rfl

/-- All elements of a list are read when each of them is. -/
theorem mapM_eq_ok_iff {results : List β} :
    list.mapM read = .ok results ↔
      List.Forall₂ (fun element result => read element = .ok result) list results := by
  induction list generalizing results with
  | nil => cases results <;> simp [pure, Except.pure]
  | cons first rest ih =>
      rw [List.forall₂_cons_left_iff]
      cases head : read first with
      | error error => simp [mapM_cons_of_error head]
      | ok result =>
          rw [mapM_cons_of_ok head]
          cases tail : rest.mapM read with
          | error error => simp [Except.map, ← ih, tail]
          | ok others => simp [Except.map, ← ih, tail, eq_comm]

/-- Reading a list fails with the error of the first element that cannot be read. -/
theorem mapM_eq_error_iff {error : ε} :
    list.mapM read = .error error ↔
      ∃ before element after, list = before ++ element :: after ∧
        (∀ earlier ∈ before, ∃ result, read earlier = .ok result) ∧
          read element = .error error := by
  induction list with
  | nil => simp [pure, Except.pure]
  | cons first rest ih =>
      cases head : read first with
      | error fault =>
          rw [mapM_cons_of_error head]
          constructor
          · intro failed
            obtain rfl : fault = error := Except.error.inj failed
            exact ⟨[], first, rest, rfl, by simp, head⟩
          · rintro ⟨before, element, after, split, readable, fails⟩
            cases before with
            | nil =>
                obtain ⟨rfl, -⟩ := List.cons.inj split
                exact congrArg Except.error (Except.error.inj (head.symm.trans fails))
            | cons earlier before =>
                obtain ⟨rfl, -⟩ := List.cons.inj split
                obtain ⟨result, isRead⟩ := readable _ List.mem_cons_self
                cases head.symm.trans isRead
      | ok result =>
          have later : (rest.mapM read).map (result :: ·) = .error error ↔
              rest.mapM read = .error error := by
            cases rest.mapM read <;> simp [Except.map]
          rw [mapM_cons_of_ok head, later, ih]
          constructor
          · rintro ⟨before, element, after, rfl, readable, fails⟩
            exact ⟨first :: before, element, after, rfl,
              List.forall_mem_cons.mpr ⟨⟨result, head⟩, readable⟩, fails⟩
          · rintro ⟨before, element, after, split, readable, fails⟩
            cases before with
            | nil =>
                obtain ⟨rfl, -⟩ := List.cons.inj split
                cases head.symm.trans fails
            | cons earlier before =>
                obtain ⟨rfl, rest⟩ := List.cons.inj split
                exact ⟨before, element, after, rest, (List.forall_mem_cons.mp readable).2, fails⟩

end Traversal

namespace Marker

theorem raw_of_read {raw : String} {marker : Marker} (isRead : read raw = .ok marker) :
    marker.raw = raw := by
  unfold read at isRead
  split at isRead
  · cases isRead
  · cases isRead
  · split at isRead
    · cases isRead
    · rw [← Except.ok.inj isRead]

/-- A text is refused as no placeholder when it has no body. -/
theorem read_eq_notAPlaceholder_iff {raw shown : String} :
    read raw = .error (.notAPlaceholder shown) ↔
      shown = raw ∧ ∀ body, raw.toList ≠ Placeholder.ofBody body := by
  have framed : readClauses raw = none ↔ ∀ body, raw.toList ≠ Placeholder.ofBody body := by
    unfold readClauses
    rw [Option.map_eq_none_iff, Option.eq_none_iff_forall_ne_some]
    simp only [ne_eq, Placeholder.body?_eq_some_iff]
  rw [← framed]
  unfold read
  cases readClauses raw with
  | none => simp [eq_comm]
  | some found =>
      obtain ⟨reading, fault⟩ := found
      cases fault with
      | some fault => cases fault <;> simp [Fault.error]
      | none => cases claim : reading.claim? <;> simp [claim]

/-- `markers` are what a row of placeholders is read as, each at the place where its text first
appears. -/
structure AreRead (raws : List String) (markers : List Marker) : Prop where
  mem_iff : ∀ marker, marker ∈ markers ↔ ∃ raw ∈ raws, read raw = .ok marker
  ordered : markers.Pairwise fun left right => raws.idxOf left.raw < raws.idxOf right.raw

/-- The markers that are read are those whose own text reads as them. -/
theorem AreRead.mem_iff_read_raw {raws : List String} {markers : List Marker} {marker : Marker}
    (areRead : AreRead raws markers) :
    marker ∈ markers ↔ marker.raw ∈ raws ∧ read marker.raw = .ok marker := by
  rw [areRead.mem_iff]
  constructor
  · rintro ⟨text, member, isRead⟩
    obtain rfl := raw_of_read isRead
    exact ⟨member, isRead⟩
  · rintro ⟨member, isRead⟩
    exact ⟨marker.raw, member, isRead⟩

theorem AreRead.unique {raws : List String} {first second : List Marker}
    (left : AreRead raws first) (right : AreRead raws second) : first = second := by
  apply eq_of_pairwise_of_mem_iff Nat.lt_asymm left.ordered right.ordered
  intro marker
  rw [left.mem_iff, right.mem_iff]

theorem map_read_eq {raws : List String} {markers : List Marker}
    (readings : List.Forall₂ (fun raw marker => read raw = .ok marker) raws markers) :
    raws.map read = markers.map .ok := by
  rw [← List.forall₂_eq_eq_eq, List.forall₂_map_left_iff, List.forall₂_map_right_iff]
  exact readings

/-- Taking out repetitions leaves one marker for each text of a placeholder. -/
theorem areRead_distinctOn {raws : List String} {markers : List Marker}
    (readings : List.Forall₂ (fun raw marker => read raw = .ok marker) raws markers) :
    AreRead raws (distinctOn raw markers) := by
  have texts : raws = markers.map raw := by
    rw [← List.forall₂_eq_eq_eq, List.forall₂_map_right_iff]
    exact readings.imp fun _ _ isRead => (raw_of_read isRead).symm
  have mem_iff (marker : Marker) : marker ∈ markers ↔ ∃ raw ∈ raws, read raw = .ok marker := by
    rw [← List.mem_map, map_read_eq readings, List.mem_map_of_injective fun _ _ => Except.ok.inj]
  constructor
  · intro marker
    constructor
    · intro kept
      exact (mem_iff marker).mp (mem_of_mem_distinctOn kept)
    · rintro ⟨text, member, isRead⟩
      have found : ∃ kept ∈ distinctOn Marker.raw markers, kept.raw = marker.raw :=
        exists_mem_distinctOn ((mem_iff marker).mpr ⟨text, member, isRead⟩)
      obtain ⟨kept, keptMember, same⟩ := found
      obtain ⟨keptText, -, keptRead⟩ := (mem_iff kept).mp (mem_of_mem_distinctOn keptMember)
      rw [raw_of_read keptRead, raw_of_read isRead] at same
      rw [same, isRead] at keptRead
      rw [Except.ok.inj keptRead]
      exact keptMember
  · have position (marker : Marker) :
        raws.idxOf marker.raw = markers.findIdx fun other => other.raw = marker.raw := by
      rw [texts, List.idxOf, List.findIdx_map]
      rfl
    simp only [position]
    exact pairwise_findIdx_distinctOn raw markers

/-- Reading a text succeeds when all its placeholders are read, and gives their markers. -/
theorem readAll_eq_ok_iff {text : String} {markers : List Marker} :
    readAll text = .ok markers ↔
      (∀ raw ∈ placeholders text, ∃ marker, read raw = .ok marker) ∧
        AreRead (placeholders text) markers := by
  have unfolded : readAll text = ((placeholders text).mapM read).map (distinctOn raw) := rfl
  rw [unfolded]
  cases results : (placeholders text).mapM read with
  | error error =>
      obtain ⟨before, faulty, after, split, -, fails⟩ := mapM_eq_error_iff.mp results
      refine iff_of_false (by simp [Except.map]) ?_
      rintro ⟨readable, -⟩
      have member : faulty ∈ placeholders text := by simp [split]
      obtain ⟨marker, isRead⟩ := readable faulty member
      cases fails.symm.trans isRead
  | ok readings =>
      have each := mapM_eq_ok_iff.mp results
      have areRead := areRead_distinctOn each
      constructor
      · intro isRead
        obtain rfl : distinctOn raw readings = markers := Except.ok.inj isRead
        refine ⟨?_, areRead⟩
        intro text member
        have listed : read text ∈ readings.map .ok := map_read_eq each ▸ List.mem_map_of_mem member
        obtain ⟨marker, -, isRead⟩ := List.mem_map.mp listed
        exact ⟨marker, isRead.symm⟩
      · rintro ⟨-, same⟩
        exact congrArg Except.ok (areRead.unique same)

/-- Reading a text fails with the error of the first placeholder that cannot be read. -/
theorem readAll_eq_error_iff {text : String} {error : MarkerError} :
    readAll text = .error error ↔
      ∃ before raw after, placeholders text = before ++ raw :: after ∧
        (∀ earlier ∈ before, ∃ marker, read earlier = .ok marker) ∧ read raw = .error error := by
  rw [← mapM_eq_error_iff]
  unfold readAll
  cases (placeholders text).mapM read <;> simp [Except.map]

end Marker

namespace Rendering

/-- Rendering replaces the placeholders of a text whose outcome is known, and nothing else. -/
theorem render_eq_replace (outcome? : String → Option Outcome) (badges : Badges) (text : String) :
    render outcome? badges text =
      String.ofList ((Layout.ofText text.toList).replace fun raw =>
        (outcome? raw).elim raw (replacement badges raw)) :=
  rfl

theorem replacement_of_read {raw : String} {badges : Badges} {marker : Marker} {outcome : Outcome}
    (isRead : Marker.read raw = .ok marker) :
    replacement badges raw outcome =
      match marker.argument? with
      | some argument => argument ++ " " ++ badges.ofOutcome outcome
      | none => badges.ofOutcome outcome := by
  unfold replacement
  rw [isRead]
  rfl

end Rendering

/-- **Placeholders.** A text has exactly one cut by the grammar. Every placeholder of the cut is
read, in order, and none is refused as no placeholder; the text is read as their different markers,
or fails with the error of the first one that cannot be read; and rendering changes nothing but the
placeholders of the cut whose outcome is known. -/
theorem placeholders_exact (text : String) :
    ∃ layout : Layout, layout.Cuts text.toList ∧
      (∀ other : Layout, other.Cuts text.toList → other = layout) ∧
      Marker.readEach text = layout.placeholders.map Marker.read ∧
      (∀ raw ∈ layout.placeholders, ∀ shown, Marker.read raw ≠ .error (.notAPlaceholder shown)) ∧
      (∀ error, Marker.readAll text = .error error ↔
        ∃ before raw after, layout.placeholders = before ++ raw :: after ∧
          (∀ earlier ∈ before, ∃ marker, Marker.read earlier = .ok marker) ∧
            Marker.read raw = .error error) ∧
      (∀ markers, Marker.readAll text = .ok markers ↔
        (∀ raw ∈ layout.placeholders, ∃ marker, Marker.read raw = .ok marker) ∧
          Marker.AreRead layout.placeholders markers) ∧
      ∀ (outcome? : String → Option Outcome) (badges : Badges),
        Rendering.render outcome? badges text =
          String.ofList (layout.replace fun raw =>
            (outcome? raw).elim raw (Rendering.replacement badges raw)) := by
  refine ⟨Layout.ofText text.toList, Layout.cuts_iff.mpr rfl, ?_, rfl, ?_, ?_, ?_, ?_⟩
  · intro other cuts
    exact (Layout.cuts_iff.mp cuts).symm
  · intro raw member shown refused
    obtain ⟨cell, -, rfl⟩ := List.mem_map.mp member
    exact (Marker.read_eq_notAPlaceholder_iff.mp refused).2 cell.2 String.toList_ofList
  · intro error
    exact Marker.readAll_eq_error_iff
  · intro markers
    exact Marker.readAll_eq_ok_iff
  · intro outcome? badges
    exact Rendering.render_eq_replace outcome? badges text

end DocMarkers
