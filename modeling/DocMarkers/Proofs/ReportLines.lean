import DocMarkers.Proofs.SplitTexts
import DocMarkers.Report.Checks
import Mathlib.Data.List.Destutter

/-! # The lines of a report

A row takes a line for its outcome and its placeholder, and a second one for the detail of an
outcome that is no pass (`CheckRow.isShownBy_lines`). The rows stand in sections below the names of
their documents. A name is put where it differs from the one above it, so documents that are shown
alike share a section when no other name comes between them (`CheckReport.exists_sections`).
-/

namespace DocMarkers

/-- A text on one line, with one blank between any two of its words. Of a line that would be too
long, all but the last three characters of the width are shown, and three dots. -/
inductive Report.IsBrief (width : Nat) (text : String) : String → Prop where
  | whole {words : List (List Char)} (cut : Text.HasWords text.toList words)
      (fits : ([' '].intercalate words).length ≤ width) :
      IsBrief width text (String.ofList ([' '].intercalate words))
  | shortened {words : List (List Char)} {front back : List Char}
      (cut : Text.HasWords text.toList words) (split : [' '].intercalate words = front ++ back)
      (long : width < (front ++ back).length) (size : front.length + 3 = width) :
      IsBrief width text (String.ofList front ++ "...")

theorem Report.isBrief_oneLine {width : Nat} (room : 3 ≤ width) (text : String) :
    IsBrief width text (oneLine text width) := by
  have cut := Text.hasWords_words text.toList
  unfold oneLine
  rw [Text.joinWith_eq_intercalate]
  dsimp only
  split
  · next fits => exact .whole cut fits
  · next long =>
      have longer := Nat.lt_of_not_le long
      rw [String.ofList_append]
      refine .shortened cut (List.take_append_drop (width - 3) _).symm ?_ ?_
      · rwa [List.take_append_drop]
      · rw [List.length_take]
        omega

/-- The lines for a row: how the outcome is marked, the placeholder, and the detail. -/
inductive CheckRow.IsShownBy (row : CheckRow) : List String → Prop where
  | passed {brief : String} (isBrief : Report.IsBrief 60 row.marker.raw brief)
      (outcome : row.outcome = .passed) : row.IsShownBy ["  [PASS] " ++ brief]
  | failed {brief detail : String} (isBrief : Report.IsBrief 60 row.marker.raw brief)
      (outcome : row.outcome = .failed detail) :
      row.IsShownBy ["  [FAIL] " ++ brief, "         " ++ detail]
  | indeterminate {brief detail : String} (isBrief : Report.IsBrief 60 row.marker.raw brief)
      (outcome : row.outcome = .indeterminate detail) :
      row.IsShownBy ["  [????] " ++ brief, "         " ++ detail]

theorem CheckRow.isShownBy_lines (row : CheckRow) : row.IsShownBy row.lines := by
  have isBrief := Report.isBrief_oneLine (by decide : 3 ≤ 60) row.marker.raw
  unfold lines
  cases outcome : row.outcome with
  | passed => exact .passed isBrief outcome
  | failed detail => exact .failed isBrief outcome
  | indeterminate detail => exact .indeterminate isBrief outcome

namespace CheckReport

/-- Rows in sections with these names. Every section has rows, and their documents are shown by the
name of the section. -/
structure AreSections (names : List String) (rows : List CheckRow)
    (sections : List (String × List CheckRow)) : Prop where
  names : sections.map Prod.fst = names
  rows : sections.flatMap Prod.snd = rows
  filled : ∀ part ∈ sections, part.2 ≠ [] ∧ ∀ row ∈ part.2, row.file = part.1

/-- The lines of sections, each below its name. -/
def sectionLines (shown : CheckRow → List String) (sections : List (String × List CheckRow)) :
    List String :=
  sections.flatMap fun part => part.1 :: part.2.flatMap shown

/-- Below the name of a document, its rows are shown without that name. -/
theorem rowLines_append {name : String} {rows rest : List CheckRow}
    (own : ∀ row ∈ rows, row.file = name) :
    rowLines (some name) (rows ++ rest) =
      rows.flatMap CheckRow.lines ++ rowLines (some name) rest := by
  induction rows with
  | nil => rfl
  | cons row rows ih =>
      obtain ⟨here, later⟩ := List.forall_mem_cons.mp own
      subst here
      rw [List.cons_append, rowLines, if_pos rfl, ih later]
      simp only [List.nil_append, List.flatMap_cons, List.append_assoc]

/-- A name that is not the one above is put before the rows. -/
theorem rowLines_of_changes {name : String} {above : Option String} {rows rest : List CheckRow}
    (changes : above ≠ some name) (filled : rows ≠ []) (own : ∀ row ∈ rows, row.file = name) :
    rowLines above (rows ++ rest) =
      name :: rows.flatMap CheckRow.lines ++ rowLines (some name) rest := by
  obtain ⟨row, rows, rfl⟩ := List.exists_cons_of_ne_nil filled
  obtain ⟨here, others⟩ := List.forall_mem_cons.mp own
  subst here
  rw [List.cons_append, rowLines, if_neg changes, rowLines_append others]
  simp only [List.flatMap_cons, List.append_assoc, List.cons_append, List.nil_append]

section Sections

variable {α : Type} {name : α → String} {rowsOf : α → List CheckRow} {list : List α}

/-- Rows below a name that is not the one above are shown in sections. The first section grows as
long as the names stay the same. -/
theorem exists_sections_below {above : Option String} {first : String} {rows : List CheckRow}
    (changes : above ≠ some first) (filled : rows ≠ []) (own : ∀ row ∈ rows, row.file = first)
    (each : ∀ part ∈ list, rowsOf part ≠ [] ∧ ∀ row ∈ rowsOf part, row.file = name part) :
    ∃ sections, AreSections ((list.map name).destutter' (· ≠ ·) first)
        (rows ++ list.flatMap rowsOf) sections ∧
      rowLines above (rows ++ list.flatMap rowsOf) = sectionLines CheckRow.lines sections := by
  induction list generalizing above first rows with
  | nil =>
      refine ⟨[(first, rows)], ⟨rfl, by simp, by simpa using ⟨filled, own⟩⟩, ?_⟩
      rw [List.flatMap_nil, rowLines_of_changes changes filled own]
      simp [sectionLines, rowLines]
  | cons part rest ih =>
      obtain ⟨⟨nonempty, partOwn⟩, later⟩ := List.forall_mem_cons.mp each
      rw [List.map_cons, List.flatMap_cons]
      by_cases same : name part = first
      · have grown : ∀ row ∈ rows ++ rowsOf part, row.file = first := by
          intro row member
          rcases List.mem_append.mp member with before | new
          · exact own row before
          · exact (partOwn row new).trans same
        rw [List.destutter'_cons_neg _ (not_not.mpr same.symm), ← List.append_assoc]
        exact ih changes (List.append_ne_nil_of_left_ne_nil filled _) grown later
      · have next : some first ≠ some (name part) := fun equal => same (Option.some.inj equal).symm
        obtain ⟨sections, areSections, lines⟩ := ih next nonempty partOwn later
        rw [List.destutter'_cons_pos _ (Ne.symm same)]
        refine ⟨(first, rows) :: sections, ⟨?_, ?_, ?_⟩, ?_⟩
        · rw [List.map_cons, areSections.names]
        · rw [List.flatMap_cons, areSections.rows]
        · exact List.forall_mem_cons.mpr ⟨⟨filled, own⟩, areSections.filled⟩
        · rw [rowLines_of_changes changes filled own, lines]
          rfl

/-- Rows are shown in sections, with a name wherever it changes. -/
theorem exists_sections
    (each : ∀ part ∈ list, rowsOf part ≠ [] ∧ ∀ row ∈ rowsOf part, row.file = name part) :
    ∃ sections, AreSections ((list.map name).destutter (· ≠ ·)) (list.flatMap rowsOf) sections ∧
      rowLines none (list.flatMap rowsOf) = sectionLines CheckRow.lines sections := by
  cases list with
  | nil => exact ⟨[], ⟨rfl, rfl, by simp⟩, rfl⟩
  | cons part rest =>
      obtain ⟨⟨nonempty, own⟩, later⟩ := List.forall_mem_cons.mp each
      exact exists_sections_below (by simp) nonempty own later

end Sections

end CheckReport

end DocMarkers
