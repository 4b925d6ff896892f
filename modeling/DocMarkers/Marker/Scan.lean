import DocMarkers.Distinct
import DocMarkers.Marker.Clause

/-! # Finding the placeholders of a text

A text falls apart into gaps and placeholders in exactly one way: a placeholder starts at the first
opening that is left and ends at the first frame after it. What follows the last placeholder is a
gap as well, even when it holds an opening that no frame closes.

`Layout.ofText` makes the cut, and `Layout.text` puts the parts together again.
-/

namespace DocMarkers

/-- A text cut at its placeholders. -/
structure Layout where
  /-- Each placeholder's body, with the gap before it. -/
  cells : List (List Char × List Char)
  /-- What follows the last placeholder. -/
  tail : List Char
  deriving DecidableEq

namespace Layout

/-- The text that was cut. -/
def text (layout : Layout) : List Char :=
  (layout.cells.flatMap fun (gap, body) => gap ++ Placeholder.ofBody body) ++ layout.tail

/-- The first place where a placeholder opens: what is before it and what follows the opening. -/
def findOpening? : List Char → Option (List Char × List Char)
  | [] => none
  | c :: rest =>
    match Text.dropPrefix? Placeholder.opening (c :: rest) with
    | some after => some ([], after)
    | none => (findOpening? rest).map fun (gap, after) => (c :: gap, after)

theorem findOpening?_eq_some {text gap after : List Char}
    (found : findOpening? text = some (gap, after)) :
    text = gap ++ Placeholder.opening ++ after := by
  induction text generalizing gap with
  | nil => simp [findOpening?] at found
  | cons c rest ih =>
    simp only [findOpening?] at found
    split at found
    · next after' opens =>
      simp only [Option.some.injEq, Prod.mk.injEq] at found
      obtain ⟨rfl, rfl⟩ := found
      simpa using Text.dropPrefix?_eq_some_iff.mp opens
    · simp only [Option.map_eq_some_iff] at found
      obtain ⟨⟨gap', after'⟩, inner, same⟩ := found
      simp only [Prod.mk.injEq] at same
      obtain ⟨rfl, rfl⟩ := same
      simpa using ih inner

/-- The first placeholder: the gap before it, its body, and what follows it. -/
def next? (text : List Char) : Option (List Char × List Char × List Char) := do
  let (gap, opened) ← findOpening? text
  let (body, rest) ← Text.cutFirst? Placeholder.frame opened
  return (gap, body, rest)

theorem next?_eq_some {text gap body rest : List Char}
    (found : next? text = some (gap, body, rest)) :
    text = gap ++ Placeholder.ofBody body ++ rest ∧ Placeholder.frame ∉ body := by
  simp only [next?, Option.bind_eq_bind, Option.bind_eq_some_iff, Option.pure_def,
    Option.some.injEq, Prod.mk.injEq, Prod.exists] at found
  obtain ⟨gap', opened, opens, body', rest', closes, rfl, rfl, rfl⟩ := found
  obtain ⟨rfl, absent⟩ := Text.cutFirst?_eq_some closes
  exact ⟨by simp [findOpening?_eq_some opens, Placeholder.ofBody], absent⟩

theorem length_lt_of_next? {text gap body rest : List Char}
    (found : next? text = some (gap, body, rest)) : rest.length < text.length := by
  rw [(next?_eq_some found).1]
  simp [Placeholder.ofBody]
  omega

/-- Cuts a text at its placeholders. -/
def ofText (text : List Char) : Layout :=
  match _found : next? text with
  | none => ⟨[], text⟩
  | some (gap, body, rest) =>
    let later := ofText rest
    ⟨(gap, body) :: later.cells, later.tail⟩
termination_by text.length
decreasing_by exact length_lt_of_next? _found

/-- Nothing is lost by the cut. -/
theorem text_ofText (text : List Char) : (ofText text).text = text := by
  fun_induction ofText text with
  | case1 text found => simp [Layout.text]
  | case2 text gap body rest found later ih =>
    rw [(next?_eq_some found).1]
    simp only [Layout.text, List.flatMap_cons, List.append_assoc] at ih ⊢
    rw [ih]

/-- The placeholders of the text, in order. -/
def placeholders (layout : Layout) : List String :=
  layout.cells.map fun (_, body) => String.ofList (Placeholder.ofBody body)

end Layout

namespace Marker

/-- The placeholders of a text, in order. -/
def placeholders (text : String) : List String :=
  (Layout.ofText text.toList).placeholders

/-- Reads each placeholder of a text, in order. A placeholder that cannot be read gives its error
and hides none of the others. -/
def readEach (text : String) : List (Except MarkerError Marker) :=
  (placeholders text).map read

/-- The markers of a text in the order in which they first appear, or the error of the first
placeholder that cannot be read. -/
def readAll (text : String) : Except MarkerError (List Marker) :=
  ((placeholders text).mapM read).map (distinctOn raw)

end Marker

end DocMarkers
