/-! # Markers

A marker is what a placeholder in a document says: either one fact to check, or the ids of other
markers that have to hold together. Two markers are the same when their placeholders are the same
text.
-/

namespace DocMarkers

/-- The keys that make a clause of a placeholder a parameter. -/
inductive Parameter where
  /-- The id under which other markers refer to this one. -/
  | id
  /-- The kind of test to run. -/
  | test
  /-- The ids of the markers that this one combines. -/
  | ids
  deriving DecidableEq

/-- The key as it is written. -/
def Parameter.key : Parameter → String
  | id => "id"
  | test => "test"
  | ids => "ids"

/-- The two kinds of marker. -/
inductive MarkerKind where
  /-- Checked by itself. -/
  | primitive
  /-- Holds when all the markers it refers to hold. -/
  | composite
  deriving DecidableEq

/-- The kind in a word. -/
def MarkerKind.text : MarkerKind → String
  | primitive => "primitive"
  | composite => "composite"

/-- What a marker asks for. A primitive marker always has an argument, and a composite one always
refers to some id. -/
inductive Marker.Claim where
  | primitive (argument : String)
  | composite (argument : Option String) (ids : List String) (nonempty : ids ≠ [])
  deriving DecidableEq

/-- One placeholder, read. -/
structure Marker where
  /-- The whole placeholder, framing included. -/
  raw : String
  /-- The id that other markers can refer to. -/
  id : Option String
  /-- The kind of test, for a primitive marker. -/
  testId : String
  /-- What is asked for. -/
  claim : Marker.Claim
  deriving DecidableEq

namespace Marker

/-- The test of a primitive marker that names none: its argument is a link that has to lead
somewhere. -/
def defaultTestId : String := "dacdoc-url"

/-- Whether the marker is checked by itself or through others. -/
def kind (marker : Marker) : MarkerKind :=
  match marker.claim with
  | .primitive _ => .primitive
  | .composite .. => .composite

/-- The first bare clause of the placeholder. -/
def argument? (marker : Marker) : Option String :=
  match marker.claim with
  | .primitive argument => some argument
  | .composite argument _ _ => argument

/-- The ids referred to, in the order of the placeholder; none for a primitive marker. -/
def ids (marker : Marker) : List String :=
  match marker.claim with
  | .primitive _ => []
  | .composite _ ids _ => ids

/-- A composite marker refers to some id. -/
theorem ids_ne_nil {marker : Marker} (composite : marker.kind = .composite) : marker.ids ≠ [] := by
  unfold kind at composite
  unfold ids
  cases claim : marker.claim with
  | primitive _ =>
      rw [claim] at composite
      cases composite
  | composite _ _ nonempty => exact nonempty

end Marker

/-- Why a text is no placeholder that can be read. -/
inductive MarkerError where
  /-- There is neither a bare clause nor a list of ids. -/
  | missingArgument (raw : String)
  /-- The list of ids has no id in it. -/
  | emptyIds (raw : String)
  /-- A parameter comes a second time. -/
  | duplicateParameter (parameter : Parameter) (raw : String)
  /-- The id or the test is blank. -/
  | emptyValue (parameter : Parameter) (raw : String)
  /-- The text is not framed as a placeholder. -/
  | notAPlaceholder (raw : String)
  deriving DecidableEq

/-- The wording of each fault. -/
def MarkerError.message : MarkerError → String
  | missingArgument raw => "Placeholder has neither an argument nor an ids list: " ++ raw
  | emptyIds raw => "Placeholder declares an empty ids list: " ++ raw
  | duplicateParameter parameter raw =>
    "Placeholder parameter '" ++ parameter.key ++ "' is given more than once in: " ++ raw
  | emptyValue parameter raw =>
    "Placeholder parameter '" ++ parameter.key ++ "' has an empty value in: " ++ raw
  | notAPlaceholder raw => "Not a placeholder (expected '!DACDOC...!'): " ++ raw

end DocMarkers
