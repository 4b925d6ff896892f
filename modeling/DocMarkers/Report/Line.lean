import DocMarkers.Text.Split

/-! # Lines of a report

A report shows a placeholder on one line of a limited width, and puts texts into columns.
-/

namespace DocMarkers.Report

/-- The words of a text on one line of at most `width` characters; three dots at the end stand for
what does not fit. -/
def oneLine (text : String) (width : Nat) : String :=
  let flat := Text.joinWith [' '] (Text.words text.toList)
  if flat.length ≤ width then String.ofList flat
  else String.ofList (flat.take (width - 3) ++ ['.', '.', '.'])

/-- A text with blanks behind it, up to a width. -/
def padded (text : String) (width : Nat) : String :=
  String.ofList (text.toList ++ List.replicate (width - text.length) ' ')

/-- A line of this many dashes. -/
def rule (width : Nat) : String :=
  String.ofList (List.replicate width '-')

end DocMarkers.Report
