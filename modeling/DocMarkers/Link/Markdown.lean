import DocMarkers.Text.Split

/-! # The link in an argument

An argument is either one whole markdown link `[label](destination)` or a bare link. The label holds
no `]`, and the parentheses of the destination are balanced and not nested. A title after the
destination and angle brackets around it are dropped.
-/

namespace DocMarkers.Link

/-- Whether the parentheses of a text are balanced and none stands inside another pair; `inside`
tells whether one is open at the start. -/
def isShallow : (inside : Bool) → List Char → Bool
  | inside, [] => !inside
  | inside, c :: rest =>
    if c = '(' then !inside && isShallow true rest
    else if c = ')' then inside && isShallow false rest
    else isShallow inside rest

/-- The label and the inner part of a text that is one whole markdown link. -/
def markdownParts? (text : List Char) : Option (List Char × List Char) := do
  let labelled ← Text.dropPrefix? ['['] text
  let (label, linked) ← Text.cutFirst? ']' labelled
  let destined ← Text.dropPrefix? ['('] linked
  let inner := destined.dropLast
  if destined.getLast? = some ')' ∧ isShallow false inner then some (label, inner) else none

/-- The destination in the inner part of a link: the text between angle brackets if it starts with
one, and otherwise its first word. -/
def destination (inner : List Char) : List Char :=
  let inner := Text.trim inner
  match (Text.dropPrefix? ['<'] inner).bind (Text.cutFirst? '>') with
  | some (bracketed, _) => bracketed
  | none => (Text.words inner).headD []

/-- The link of an argument: the destination if it is a markdown link, and otherwise the argument
itself, trimmed. -/
def ofArgument (argument : String) : String :=
  let text := Text.trim argument.toList
  match markdownParts? text with
  | some (_, inner) => String.ofList (destination inner)
  | none => String.ofList text

end DocMarkers.Link
