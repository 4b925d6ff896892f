import DocMarkers.Text.Blank

/-! # Cutting a text

A text is cut at every separator (`splitWhere`, `splitOn`), at the first one only (`cutFirst?`), or
after a fixed beginning (`dropPrefix?`). Cutting at every separator loses only the separators:
`joinWith_splitOn` puts the pieces together again, and no piece holds a separator
(`not_separates_of_mem_splitWhere`). A text is a row of characters here, or of bytes.
-/

namespace DocMarkers.Text

section

variable {α : Type}

/-- The pieces of a text between the characters that satisfy `separates`; there is one piece more
than there are such characters. -/
def splitWhere (separates : α → Bool) : List α → List (List α)
  | [] => [[]]
  | c :: rest =>
    if separates c then [] :: splitWhere separates rest
    else
      match splitWhere separates rest with
      | [] => [[c]]
      | piece :: pieces => (c :: piece) :: pieces

/-- The pieces of a text between the occurrences of one character. -/
def splitOn [DecidableEq α] (separator : α) (text : List α) : List (List α) :=
  splitWhere (fun c => decide (c = separator)) text

/-- The pieces in a row, with the separator between two neighbours. -/
def joinWith (separator : List α) : List (List α) → List α
  | [] => []
  | [piece] => piece
  | piece :: next :: pieces => piece ++ separator ++ joinWith separator (next :: pieces)

/-- A text always has a first piece. -/
theorem splitWhere_ne_nil (separates : α → Bool) (text : List α) :
    splitWhere separates text ≠ [] := by
  cases text with
  | nil => simp [splitWhere]
  | cons c rest =>
    simp only [splitWhere]
    split
    · simp
    · split <;> simp

/-- No piece holds a character that separates. -/
theorem not_separates_of_mem_splitWhere {separates : α → Bool} {text piece : List α} {c : α}
    (member : piece ∈ splitWhere separates text) (inside : c ∈ piece) :
    separates c = false := by
  induction text generalizing piece with
  | nil => simp_all [splitWhere]
  | cons first rest ih =>
    simp only [splitWhere] at member
    split at member
    · rcases List.mem_cons.mp member with rfl | later
      · simp at inside
      · exact ih later inside
    · next keeps =>
      have kept : separates first = false := by simpa using keeps
      split at member
      · simp_all
      · next head tail cut =>
        rcases List.mem_cons.mp member with rfl | later
        · rcases List.mem_cons.mp inside with rfl | inside
          · exact kept
          · exact ih (by simp [cut]) inside
        · exact ih (by simp [cut, later]) inside

variable [DecidableEq α]

/-- Putting the separator back between the pieces gives the text. -/
theorem joinWith_splitOn (separator : α) (text : List α) :
    joinWith [separator] (splitOn separator text) = text := by
  induction text with
  | nil => rfl
  | cons c rest ih =>
    have pieces : ∃ piece more, splitOn separator rest = piece :: more := by
      cases split : splitOn separator rest with
      | nil => exact absurd split (splitWhere_ne_nil _ _)
      | cons piece more => exact ⟨piece, more, rfl⟩
    obtain ⟨piece, more, split⟩ := pieces
    rw [split] at ih
    by_cases here : c = separator
    · subst here
      have step : splitOn c (c :: rest) = [] :: piece :: more := by
        simp only [splitOn] at split
        simp [splitOn, splitWhere, split]
      rw [step]
      simp [joinWith, ih]
    · have step : splitOn separator (c :: rest) = (c :: piece) :: more := by
        simp only [splitOn] at split
        simp [splitOn, splitWhere, split, here]
      rw [step]
      cases more with
      | nil => simp_all [joinWith]
      | cons next rest' => simp_all [joinWith]

theorem splitOn_cons_of_ne {separator c : α} {rest piece : List α} {pieces : List (List α)}
    (different : c ≠ separator) (split : splitOn separator rest = piece :: pieces) :
    splitOn separator (c :: rest) = (c :: piece) :: pieces := by
  unfold splitOn at split ⊢
  simp [splitWhere, different, split]

theorem splitOn_of_not_mem {separator : α} {text : List α} (absent : separator ∉ text) :
    splitOn separator text = [text] := by
  induction text with
  | nil => rfl
  | cons c rest ih =>
      have different : c ≠ separator := fun same => absent (same ▸ List.mem_cons_self)
      exact splitOn_cons_of_ne different (ih fun member => absent (List.mem_cons_of_mem _ member))

/-- A separator between two texts cuts them apart. -/
theorem splitOn_append_cons {separator : α} {text rest : List α} :
    splitOn separator (text ++ separator :: rest) =
      splitOn separator text ++ splitOn separator rest := by
  induction text with
  | nil => simp [splitOn, splitWhere]
  | cons c text ih =>
      by_cases here : c = separator
      · subst here
        unfold splitOn at ih ⊢
        simp [splitWhere, ih]
      · have pieces : ∃ piece more, splitOn separator text = piece :: more :=
          List.exists_cons_of_ne_nil (splitWhere_ne_nil _ _)
        obtain ⟨piece, more, split⟩ := pieces
        rw [split] at ih
        rw [List.cons_append, splitOn_cons_of_ne here ih, splitOn_cons_of_ne here split]
        rfl

/-- What stands before and after the first occurrence of a character. -/
def cutFirst? (separator : α) : List α → Option (List α × List α)
  | [] => none
  | c :: rest =>
    if c = separator then some ([], rest)
    else (cutFirst? separator rest).map fun (before, after) => (c :: before, after)

/-- What follows `beginning` in a text that starts with it. -/
def dropPrefix? : (beginning text : List α) → Option (List α)
  | [], text => some text
  | _ :: _, [] => none
  | expected :: beginning, c :: text => if expected = c then dropPrefix? beginning text else none

/-- A cut gives back the text. -/
theorem cutFirst?_eq_some {separator : α} {text before after : List α}
    (cut : cutFirst? separator text = some (before, after)) :
    text = before ++ separator :: after ∧ separator ∉ before := by
  induction text generalizing before with
  | nil => simp [cutFirst?] at cut
  | cons c rest ih =>
    by_cases here : c = separator
    · simp only [cutFirst?, here, if_true, Option.some.injEq, Prod.mk.injEq] at cut
      obtain ⟨rfl, rfl⟩ := cut
      simp [here]
    · simp only [cutFirst?, here, if_false, Option.map_eq_some_iff] at cut
      obtain ⟨⟨before', after'⟩, inner, same⟩ := cut
      simp only [Prod.mk.injEq] at same
      obtain ⟨rfl, rfl⟩ := same
      obtain ⟨rfl, absent⟩ := ih inner
      exact ⟨rfl, by simp [absent, Ne.symm here]⟩

/-- The beginning and what follows it make up the text. -/
theorem dropPrefix?_eq_some_iff {beginning text rest : List α} :
    dropPrefix? beginning text = some rest ↔ text = beginning ++ rest := by
  induction beginning generalizing text with
  | nil => simp [dropPrefix?, eq_comm]
  | cons expected beginning ih =>
    cases text with
    | nil => simp [dropPrefix?]
    | cons c text =>
      by_cases same : expected = c
      · simp [dropPrefix?, same, ih]
      · simp [dropPrefix?, same, Ne.symm same]

end

/-- The words of a text: its longest runs of characters that are not blank. -/
def words (text : List Char) : List (List Char) :=
  (splitWhere isBlank text).filter (!·.isEmpty)

/-- What stands before and after the first occurrence of a text. -/
def cutAt? (separator : List Char) : List Char → Option (List Char × List Char)
  | [] => if separator.isEmpty then some ([], []) else none
  | c :: rest =>
    if separator.isPrefixOf (c :: rest) then some ([], (c :: rest).drop separator.length)
    else (cutAt? separator rest).map fun (before, after) => (c :: before, after)

end DocMarkers.Text
