import DocMarkers.Proofs.FirstAppearance
import DocMarkers.Text.Split
import Mathlib.Data.List.TakeWhile

/-! # The pieces of a text

A text is cut at a separator in one way: no piece holds the separator, and the pieces with the
separator between them are the text (`Text.splitOn_eq_iff`). Trimming takes the blanks away at the
two ends of a text and nothing else (`Text.trim_eq_iff`).

The items of a text are its trimmed pieces without the blank ones (`Text.hasItems_iff`), and its
words are what stands between blanks (`Text.hasWords_words`).
-/

namespace DocMarkers.Text

section Pieces

variable {α : Type} [DecidableEq α] {separator : α} {text : List α} {pieces : List (List α)}

theorem splitOn_joinWith (nonempty : pieces ≠ []) (clean : ∀ piece ∈ pieces, separator ∉ piece) :
    splitOn separator (joinWith [separator] pieces) = pieces := by
  induction pieces with
  | nil => exact absurd rfl nonempty
  | cons piece rest ih =>
      obtain ⟨first, later⟩ := List.forall_mem_cons.mp clean
      cases rest with
      | nil => exact splitOn_of_not_mem first
      | cons next rest =>
          have split := ih (List.cons_ne_nil next rest) later
          unfold joinWith
          rw [List.append_assoc, List.singleton_append, splitOn_append_cons,
            splitOn_of_not_mem first, split]
          rfl

omit [DecidableEq α] in
theorem exists_joinWith_cons (separator piece : List α) (pieces : List (List α)) :
    ∃ rest, joinWith separator (piece :: pieces) = piece ++ rest := by
  cases pieces with
  | nil => exact ⟨[], (List.append_nil piece).symm⟩
  | cons next pieces => exact ⟨_, List.append_assoc _ _ _⟩

omit [DecidableEq α] in
theorem subset_joinWith {separator piece : List α} {pieces : List (List α)}
    (member : piece ∈ pieces) : piece ⊆ joinWith separator pieces := by
  induction pieces with
  | nil => cases member
  | cons first rest ih =>
      cases rest with
      | nil => exact List.mem_singleton.mp member ▸ List.Subset.refl _
      | cons next rest =>
          unfold joinWith
          rcases List.mem_cons.mp member with rfl | later
          · rw [List.append_assoc]
            exact List.subset_append_left _ _
          · exact List.subset_append_of_subset_right _ (ih later)

/-- There is one way to cut a text at every separator. -/
theorem splitOn_eq_iff :
    splitOn separator text = pieces ↔
      pieces ≠ [] ∧ (∀ piece ∈ pieces, separator ∉ piece) ∧
        joinWith [separator] pieces = text := by
  constructor
  · intro split
    subst split
    refine ⟨splitWhere_ne_nil _ _, ?_, joinWith_splitOn separator text⟩
    intro piece member inside
    have different := not_separates_of_mem_splitWhere member inside
    simp at different
  · intro cut
    obtain ⟨nonempty, clean, joined⟩ := cut
    rw [← joined]
    exact splitOn_joinWith nonempty clean

theorem cutFirst?_eq_none_iff :
    cutFirst? separator text = none ↔ separator ∉ text := by
  induction text with
  | nil => simp [cutFirst?]
  | cons c rest ih =>
      by_cases here : c = separator
      · simp [cutFirst?, here]
      · simp [cutFirst?, here, ih, Ne.symm here]

/-- The first separator of a text is the only one with no other before it. -/
theorem cutFirst?_eq_some_iff {before after : List α} :
    cutFirst? separator text = some (before, after) ↔
      text = before ++ separator :: after ∧ separator ∉ before := by
  constructor
  · exact cutFirst?_eq_some
  · rintro ⟨rfl, absent⟩
    induction before with
    | nil => simp [cutFirst?]
    | cons c before ih =>
        have different : c ≠ separator := fun same => absent (same ▸ List.mem_cons_self)
        have later := ih fun member => absent (List.mem_cons_of_mem _ member)
        simp [cutFirst?, different, later]

/-- There is one way to cut a text at its first separator. -/
theorem eq_of_cut {before after otherBefore otherAfter : List α}
    (same : before ++ separator :: after = otherBefore ++ separator :: otherAfter)
    (first : separator ∉ before) (otherFirst : separator ∉ otherBefore) :
    before = otherBefore ∧ after = otherAfter := by
  have cut := cutFirst?_eq_some_iff.mpr ⟨same, otherFirst⟩
  rw [cutFirst?_eq_some_iff.mpr ⟨rfl, first⟩] at cut
  exact Prod.mk.inj (Option.some.inj cut)

/-- The longest beginning of which all is kept ends where something is not kept. -/
theorem takeWhile_append_of_stops {keeps : Char → Bool} {front rest : List Char}
    (kept : ∀ c ∈ front, keeps c = true) (stops : ∀ c, rest.head? = some c → keeps c = false) :
    (front ++ rest).takeWhile keeps = front := by
  have none : rest.takeWhile keeps = [] := by
    cases rest with
    | nil => rfl
    | cons c rest => simp [stops c rfl]
  rw [List.takeWhile_append_of_pos kept, none, List.append_nil]

end Pieces

section Trimming

variable {text core before after : List Char}

/-- What a text is without the blanks at its two ends. -/
def TrimsTo (text core : List Char) : Prop :=
  ∃ before after, text = before ++ core ++ after ∧ (∀ c ∈ before ++ after, isBlank c = true) ∧
    ∀ c, core.head? = some c ∨ core.getLast? = some c → isBlank c = false

theorem trimStart_append (blank : ∀ c ∈ before, isBlank c = true)
    (filled : ∀ c, core.head? = some c → isBlank c = false) :
    trimStart (before ++ core) = core := by
  unfold trimStart
  rw [List.dropWhile_append_of_pos blank]
  cases core with
  | nil => rfl
  | cons c core => exact List.dropWhile_cons_of_neg (by simp [filled c rfl])

theorem trimEnd_append (blank : ∀ c ∈ after, isBlank c = true)
    (filled : ∀ c, core.getLast? = some c → isBlank c = false) :
    trimEnd (core ++ after) = core := by
  have reversed : trimStart (after.reverse ++ core.reverse) = core.reverse := by
    apply trimStart_append
    · intro c member
      exact blank c (List.mem_reverse.mp member)
    · intro c first
      exact filled c (List.head?_reverse ▸ first)
  unfold trimStart at reversed
  unfold trimEnd
  rw [List.reverse_append, reversed, List.reverse_reverse]

theorem exists_trimStart (text : List Char) :
    ∃ before, text = before ++ trimStart text ∧ (∀ c ∈ before, isBlank c = true) ∧
      ∀ c, (trimStart text).head? = some c → isBlank c = false := by
  refine ⟨text.takeWhile isBlank, List.takeWhile_append_dropWhile.symm, ?_, ?_⟩
  · intro c member
    exact List.mem_takeWhile_imp member
  · intro c first
    have kept := List.head?_dropWhile_not isBlank text
    unfold trimStart at first
    rw [first] at kept
    exact kept

theorem exists_trimEnd (text : List Char) :
    ∃ after, text = trimEnd text ++ after ∧ (∀ c ∈ after, isBlank c = true) ∧
      ∀ c, (trimEnd text).getLast? = some c → isBlank c = false := by
  obtain ⟨before, cut, blank, filled⟩ := exists_trimStart text.reverse
  refine ⟨before.reverse, ?_, ?_, ?_⟩
  · have reversed := congrArg List.reverse cut
    rw [List.reverse_reverse, List.reverse_append] at reversed
    exact reversed
  · intro c member
    exact blank c (List.mem_reverse.mp member)
  · intro c last
    exact filled c (List.getLast?_reverse ▸ last)

/-- Trimming takes away the blanks at both ends and no more. -/
theorem trim_eq_iff : trim text = core ↔ TrimsTo text core := by
  constructor
  · intro trimmed
    subst trimmed
    obtain ⟨before, start, blankBefore, filledStart⟩ := exists_trimStart text
    obtain ⟨after, stop, blankAfter, filledEnd⟩ := exists_trimEnd (trimStart text)
    refine ⟨before, after, ?_, ?_, ?_⟩
    · unfold trim
      rw [List.append_assoc, ← stop]
      exact start
    · intro c member
      exact (List.mem_append.mp member).elim (blankBefore c) (blankAfter c)
    · intro c ends
      rcases ends with first | last
      · apply filledStart c
        rw [stop]
        unfold trim at first
        rw [List.head?_append, first]
        rfl
      · exact filledEnd c last
  · intro trims
    obtain ⟨before, after, rfl, blank, filled⟩ := trims
    obtain ⟨blankBefore, blankAfter⟩ := List.forall_mem_append.mp blank
    unfold trim
    by_cases empty : core = []
    · subst empty
      have start : trimStart (before ++ [] ++ after) = [] := by
        have all : trimStart (before ++ after ++ []) = [] := trimStart_append blank (by simp)
        simpa using all
      rw [start]
      rfl
    · obtain ⟨c, rest, rfl⟩ := List.exists_cons_of_ne_nil empty
      have start : trimStart (before ++ (c :: rest ++ after)) = c :: rest ++ after := by
        apply trimStart_append blankBefore
        intro other first
        exact filled other (.inl first)
      rw [List.append_assoc, start]
      exact trimEnd_append blankAfter fun other last => filled other (.inr last)

end Trimming

section Items

variable {separator : Char} {text : List Char} {items : List (List Char)}

/-- The trimmed pieces of a text between separators, without the blank ones. -/
def HasItems (separator : Char) (text : List Char) (items : List (List Char)) : Prop :=
  ∃ pieces cores, pieces ≠ [] ∧ (∀ piece ∈ pieces, separator ∉ piece) ∧
    joinWith [separator] pieces = text ∧ List.Forall₂ TrimsTo pieces cores ∧
      items = cores.filter fun core => core ≠ []

theorem hasItems_iff :
    HasItems separator text items ↔
      ((splitOn separator text).map trim).filter (!·.isEmpty) = items := by
  have trims (pieces cores : List (List Char)) :
      List.Forall₂ TrimsTo pieces cores ↔ pieces.map trim = cores := by
    rw [← List.forall₂_eq_eq_eq, List.forall₂_map_left_iff]
    simp only [trim_eq_iff]
  have keeps (cores : List (List Char)) :
      (cores.filter fun core => core ≠ []) = cores.filter (!·.isEmpty) := by
    apply List.filter_congr
    intro core _
    cases core <;> rfl
  unfold HasItems
  simp only [trims, keeps]
  constructor
  · intro cut
    obtain ⟨pieces, cores, nonempty, clean, joined, rfl, rfl⟩ := cut
    rw [splitOn_eq_iff.mpr ⟨nonempty, clean, joined⟩]
  · intro isItems
    obtain ⟨nonempty, clean, joined⟩ := splitOn_eq_iff.mp (rfl : splitOn separator text = _)
    exact ⟨_, _, nonempty, clean, joined, rfl, isItems.symm⟩

/-- An item is a part of the text. -/
theorem HasItems.subset {item : List Char} (hasItems : HasItems separator text items)
    (member : item ∈ items) : item ⊆ text := by
  obtain ⟨pieces, cores, -, -, rfl, trims, rfl⟩ := hasItems
  obtain ⟨piece, inside, before, after, rfl, -⟩ :=
    exists_mem_of_forall₂ trims (List.mem_of_mem_filter member)
  refine List.Subset.trans ?_ (subset_joinWith inside)
  intro c own
  exact List.mem_append_left after (List.mem_append_right before own)

end Items

section Words

variable {text : List Char} {words : List (List Char)} {c : Char}

/-- A text has these words: there is no blank in a word, and blanks alone stand around words, at
least one of them between any two. -/
inductive HasWords : (text : List Char) → (words : List (List Char)) → Prop where
  | none {text : List Char} (blank : ∀ c ∈ text, isBlank c = true) : HasWords text []
  | word (before : List Char) {word rest : List Char} {words : List (List Char)}
      (blank : ∀ c ∈ before, isBlank c = true) (filled : word ≠ [])
      (solid : ∀ c ∈ word, isBlank c = false) (ends : ∀ c, rest.head? = some c → isBlank c = true)
      (later : HasWords rest words) : HasWords (before ++ word ++ rest) (word :: words)

theorem HasWords.cons_blank (hasWords : HasWords text words) (blank : isBlank c = true) :
    HasWords (c :: text) words := by
  cases hasWords with
  | none blanks => exact .none (List.forall_mem_cons.mpr ⟨blank, blanks⟩)
  | word before blanks filled solid ends later =>
      exact .word (c :: before) (List.forall_mem_cons.mpr ⟨blank, blanks⟩) filled solid
        ends later

/-- Before a blank or the end, a character is a word of its own. -/
theorem HasWords.cons_alone (hasWords : HasWords text words) (solid : isBlank c = false)
    (ends : ∀ next, text.head? = some next → isBlank next = true) :
    HasWords (c :: text) ([c] :: words) :=
  .word [] (by simp) (List.cons_ne_nil c []) (by simpa using solid) ends hasWords

/-- Before another character that is not blank, it belongs to the first word. -/
theorem HasWords.exists_cons {next : Char} (hasWords : HasWords text words)
    (solid : isBlank c = false) (starts : text.head? = some next)
    (nextSolid : isBlank next = false) :
    ∃ word later, words = word :: later ∧ HasWords (c :: text) ((c :: word) :: later) := by
  cases hasWords with
  | none blanks =>
      cases nextSolid.symm.trans (blanks next (List.mem_of_mem_head? starts))
  | @word before word _ later blanks filled solids ends hasLater =>
      cases before with
      | cons first before =>
          obtain rfl := Option.some.inj starts
          cases nextSolid.symm.trans (blanks _ List.mem_cons_self)
      | nil =>
          exact ⟨word, later, rfl, .word [] (by simp) (List.cons_ne_nil c word)
            (List.forall_mem_cons.mpr ⟨solid, solids⟩) ends hasLater⟩

/-- Cutting at the blanks gives the words. -/
theorem hasWords_words (text : List Char) : HasWords text (Text.words text) := by
  induction text with
  | nil => exact .none (by simp)
  | cons c text ih =>
      unfold Text.words at ih ⊢
      by_cases blank : isBlank c = true
      · rw [splitWhere, if_pos blank]
        exact ih.cons_blank blank
      · have solid : isBlank c = false := Bool.not_eq_true _ ▸ blank
        rw [splitWhere, if_neg blank]
        cases text with
        | nil =>
            have nothing : HasWords [] [] := .none (List.forall_mem_nil _)
            have alone := nothing.cons_alone solid (by simp)
            simpa [splitWhere] using alone
        | cons next rest =>
            by_cases nextBlank : isBlank next = true
            · have alone := ih.cons_alone solid (by simpa using nextBlank)
              simpa [splitWhere, nextBlank] using alone
            · have nextSolid : isBlank next = false := Bool.not_eq_true _ ▸ nextBlank
              obtain ⟨word, later, split, hasWords⟩ := ih.exists_cons solid rfl nextSolid
              cases pieces : splitWhere isBlank rest with
              | nil => exact absurd pieces (splitWhere_ne_nil _ _)
              | cons piece others =>
                  have here : splitWhere isBlank (next :: rest) = (next :: piece) :: others := by
                    rw [splitWhere, if_neg nextBlank, pieces]
                  rw [here, List.filter_cons_of_pos rfl] at split
                  obtain ⟨rfl, rfl⟩ := List.cons.inj split
                  rw [here]
                  exact hasWords

/-- Pieces with a separator between them, as the library puts it. -/
theorem joinWith_eq_intercalate {α : Type} (separator : List α) (pieces : List (List α)) :
    joinWith separator pieces = separator.intercalate pieces := by
  induction pieces with
  | nil => rfl
  | cons piece pieces ih =>
      cases pieces with
      | nil => simp [joinWith]
      | cons next pieces => rw [joinWith, ih]; simp

end Words

end DocMarkers.Text
