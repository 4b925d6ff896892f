/-! # The general categories of characters

Every character has one of thirty categories, which has a short and a long name.
-/

namespace DocMarkers.Unicode

/-- A general category. -/
inductive Category where
  | uppercaseLetter
  | lowercaseLetter
  | titlecaseLetter
  | modifierLetter
  | otherLetter
  | nonspacingMark
  | spacingMark
  | enclosingMark
  | decimalNumber
  | letterNumber
  | otherNumber
  | connectorPunctuation
  | dashPunctuation
  | openPunctuation
  | closePunctuation
  | initialPunctuation
  | finalPunctuation
  | otherPunctuation
  | mathSymbol
  | currencySymbol
  | modifierSymbol
  | otherSymbol
  | spaceSeparator
  | lineSeparator
  | paragraphSeparator
  | control
  | format
  | surrogate
  | privateUse
  | unassigned
  deriving DecidableEq

namespace Category

/-- All categories. -/
def all : List Category :=
  [uppercaseLetter, lowercaseLetter, titlecaseLetter, modifierLetter, otherLetter, nonspacingMark,
    spacingMark, enclosingMark, decimalNumber, letterNumber, otherNumber, connectorPunctuation,
    dashPunctuation, openPunctuation, closePunctuation, initialPunctuation, finalPunctuation,
    otherPunctuation, mathSymbol, currencySymbol, modifierSymbol, otherSymbol, spaceSeparator,
    lineSeparator, paragraphSeparator, control, format, surrogate, privateUse, unassigned]

/-- The short name of a category. -/
def abbreviation : Category → String
  | uppercaseLetter => "Lu"
  | lowercaseLetter => "Ll"
  | titlecaseLetter => "Lt"
  | modifierLetter => "Lm"
  | otherLetter => "Lo"
  | nonspacingMark => "Mn"
  | spacingMark => "Mc"
  | enclosingMark => "Me"
  | decimalNumber => "Nd"
  | letterNumber => "Nl"
  | otherNumber => "No"
  | connectorPunctuation => "Pc"
  | dashPunctuation => "Pd"
  | openPunctuation => "Ps"
  | closePunctuation => "Pe"
  | initialPunctuation => "Pi"
  | finalPunctuation => "Pf"
  | otherPunctuation => "Po"
  | mathSymbol => "Sm"
  | currencySymbol => "Sc"
  | modifierSymbol => "Sk"
  | otherSymbol => "So"
  | spaceSeparator => "Zs"
  | lineSeparator => "Zl"
  | paragraphSeparator => "Zp"
  | control => "Cc"
  | format => "Cf"
  | surrogate => "Cs"
  | privateUse => "Co"
  | unassigned => "Cn"

/-- The long name of a category. -/
def name : Category → String
  | uppercaseLetter => "Uppercase_Letter"
  | lowercaseLetter => "Lowercase_Letter"
  | titlecaseLetter => "Titlecase_Letter"
  | modifierLetter => "Modifier_Letter"
  | otherLetter => "Other_Letter"
  | nonspacingMark => "Nonspacing_Mark"
  | spacingMark => "Spacing_Mark"
  | enclosingMark => "Enclosing_Mark"
  | decimalNumber => "Decimal_Number"
  | letterNumber => "Letter_Number"
  | otherNumber => "Other_Number"
  | connectorPunctuation => "Connector_Punctuation"
  | dashPunctuation => "Dash_Punctuation"
  | openPunctuation => "Open_Punctuation"
  | closePunctuation => "Close_Punctuation"
  | initialPunctuation => "Initial_Punctuation"
  | finalPunctuation => "Final_Punctuation"
  | otherPunctuation => "Other_Punctuation"
  | mathSymbol => "Math_Symbol"
  | currencySymbol => "Currency_Symbol"
  | modifierSymbol => "Modifier_Symbol"
  | otherSymbol => "Other_Symbol"
  | spaceSeparator => "Space_Separator"
  | lineSeparator => "Line_Separator"
  | paragraphSeparator => "Paragraph_Separator"
  | control => "Control"
  | format => "Format"
  | surrogate => "Surrogate"
  | privateUse => "Private_Use"
  | unassigned => "Unassigned"

/-- The categories by their short names. -/
def abbreviations : List (List Char × Category) :=
  all.map fun category => (category.abbreviation.toList, category)

/-- The category with a short name. -/
def ofAbbreviation? (abbreviation : List Char) : Option Category :=
  abbreviations.lookup abbreviation

/-- The categories that are letters. -/
def letters : List Category :=
  [uppercaseLetter, lowercaseLetter, titlecaseLetter, modifierLetter, otherLetter]

/-- The categories that are marks. -/
def marks : List Category :=
  [nonspacingMark, spacingMark, enclosingMark]

/-- The categories that are numbers. -/
def numbers : List Category :=
  [decimalNumber, letterNumber, otherNumber]

/-- The categories that are punctuation. -/
def punctuation : List Category :=
  [connectorPunctuation, dashPunctuation, openPunctuation, closePunctuation, initialPunctuation,
    finalPunctuation, otherPunctuation]

/-- The categories that are symbols. -/
def symbols : List Category :=
  [mathSymbol, currencySymbol, modifierSymbol, otherSymbol]

/-- The categories that separate. -/
def separators : List Category :=
  [spaceSeparator, lineSeparator, paragraphSeparator]

/-- The categories without a shape. -/
def others : List Category :=
  [control, format, surrogate, privateUse, unassigned]

end Category

end DocMarkers.Unicode
