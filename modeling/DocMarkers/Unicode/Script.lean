import DocMarkers.Unicode.ScriptTable
import DocMarkers.Unicode.Table

/-! # The scripts of characters

Every character has one script, but may be used in several: then it has a set of scripts besides.
Scripts are named by their short names of four letters.
-/

namespace DocMarkers.Unicode.Script

/-- The names of each script, the short one first. -/
def names : List (List (List Char)) :=
  (Text.words namesText.toList).map (Text.splitOn ';')

/-- The runs of codes with one script. -/
def table : List (Nat × List Char) :=
  readRuns runsText

/-- The sets of scripts of the characters that have one. -/
def extensions : List (Range × List (List Char)) :=
  (Text.words extensionsText.toList).filterMap fun entry => do
    let (range, scripts) ← Text.cutFirst? ':' entry
    return (← Range.read? range, Text.splitOn '+' scripts)

/-- Whether any character has a script. -/
def isUsed (script : List Char) : Bool :=
  table.any (·.2 = script) && script ≠ "Zzzz".toList

/-- Whether a character has a script. -/
def holds (script : List Char) (c : Char) : Bool :=
  runValue? table c.toNat == some script

/-- Whether a script is in the set of scripts of a character, or is its only one. -/
def isAmong (script : List Char) (c : Char) : Bool :=
  let sets := extensions.filter (·.1.contains c)
  if sets.isEmpty then holds script c else sets.any (·.2.contains script)

end DocMarkers.Unicode.Script
