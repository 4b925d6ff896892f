import DocMarkers.Pattern.Meaning
import DocMarkers.Pattern.Read
import DocMarkers.Pattern.Size

/-! # Patterns

A pattern is a regular expression. `Pattern.read` reads one, and `Expression.isFound` tells whether
some part of a text matches it.
-/

namespace DocMarkers.Pattern

/-- What a pattern means, or what is wrong with it. -/
def read (pattern : List Char) : Except String Expression := do
  let form ← (Form.read pattern).mapError (·.report pattern)
  let (expression, _) ← (form.meaning .initial).mapError (·.report pattern)
  if sizeLimit < form.size then
    throw ("Compiled regex exceeds size limit of " ++ toString sizeLimit ++ " bytes.")
  return expression

end DocMarkers.Pattern
