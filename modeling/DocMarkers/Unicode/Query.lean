import DocMarkers.Unicode.BinaryProperty
import DocMarkers.Unicode.Script

/-! # Properties by their names

A property may be asked for by a name alone, which names something that a character has or has not:
a property of its own, a group of categories, or a script. Or it is asked for by a name and a value.
Names match loosely: the case, blanks, hyphens, low lines and an `is` at the start do not matter.
-/

namespace DocMarkers.Unicode

/-- A question about characters. -/
inductive Query where
  /-- One name. -/
  | named (name : List Char)
  /-- The name of a property, and a value of it. -/
  | valued (name value : List Char)

/-- What can be wrong with a question. -/
inductive QueryFault where
  | unknownProperty
  | unknownValue

/-- A name without what does not matter in it. -/
def looseName (name : List Char) : List Char :=
  let tidy (text : List Char) : List Char :=
    (text.filter fun c => c != ' ' && c != '_' && c != '-' && c < '\x80').map Char.toLower
  match name with
  | first :: second :: rest =>
    if first.toLower = 'i' ∧ second.toLower = 's' then
      if tidy rest = ['c'] then "isc".toList else tidy rest
    else tidy name
  | _ => tidy name

/-- Whether a loose name is one of some names. -/
def isNamed (loose : List Char) (names : List String) : Bool :=
  names.any (looseName ·.toList = loose)

/-- The groups of categories with more than one member, by their names. -/
def categoryGroups : List (List String × List Category) :=
  [(["L", "Letter"], Category.letters),
    (["LC", "Cased_Letter"], [.uppercaseLetter, .lowercaseLetter, .titlecaseLetter]),
    (["M", "Mark", "Combining_Mark"], Category.marks),
    (["N", "Number"], Category.numbers),
    (["P", "Punctuation", "punct"], Category.punctuation),
    (["S", "Symbol"], Category.symbols),
    (["Z", "Separator"], Category.separators),
    (["C", "Other"], Category.others),
    (["Any"], Category.all),
    (["Assigned"], Category.all.filter (· ≠ .unassigned)),
    (["cntrl"], [.control]),
    (["digit"], [.decimalNumber])]

/-- The categories that a loose name stands for. -/
def categoriesNamed? (loose : List Char) : Option (List Category) :=
  match categoryGroups.find? fun group => isNamed loose group.1 with
  | some group => some group.2
  | none =>
    (Category.all.find? fun category => isNamed loose [category.abbreviation, category.name]).map
      ([·])

/-- The script that a loose name stands for. -/
def scriptNamed? (loose : List Char) : Option (List Char) :=
  (Script.names.find? (·.any (looseName · = loose))).bind (·.head?)

/-- Properties that are known but not supported, by their names: those with values, and some that a
character has or has not. -/
def unsupported : List String :=
  ["cjkAccountingNumeric", "kAccountingNumeric", "cjkOtherNumeric", "kOtherNumeric",
    "cjkPrimaryNumeric", "kPrimaryNumeric", "nv", "Numeric_Value", "bmg", "Bidi_Mirroring_Glyph",
    "bpb", "Bidi_Paired_Bracket", "cf", "Case_Folding", "cjkCompatibilityVariant",
    "kCompatibilityVariant", "dm", "Decomposition_Mapping", "EqUIdeo",
    "Equivalent_Unified_Ideograph", "FC_NFKC", "FC_NFKC_Closure", "lc", "Lowercase_Mapping",
    "NFKC_CF", "NFKC_Casefold", "NFKC_SCF", "NFKC_Simple_Casefold", "scf", "sfc",
    "Simple_Case_Folding", "slc", "Simple_Lowercase_Mapping", "stc", "Simple_Titlecase_Mapping",
    "suc", "Simple_Uppercase_Mapping", "tc", "Titlecase_Mapping", "uc", "Uppercase_Mapping",
    "cjkIICore", "kIICore", "cjkRSUnicode", "kRSUnicode", "Unicode_Radical_Stroke", "URS", "isc",
    "ISO_Comment", "JSN", "Jamo_Short_Name", "na", "Name", "na1", "Unicode_1_Name", "Name_Alias",
    "age", "Age", "blk", "Block", "bc", "Bidi_Class", "bpt", "Bidi_Paired_Bracket_Type", "ccc",
    "Canonical_Combining_Class", "dt", "Decomposition_Type", "ea", "East_Asian_Width", "GCB",
    "Grapheme_Cluster_Break", "hst", "Hangul_Syllable_Type", "InCB", "Indic_Conjunct_Break",
    "InPC", "Indic_Positional_Category", "InSC", "Indic_Syllabic_Category", "jg", "Joining_Group",
    "jt", "Joining_Type", "lb", "Line_Break", "NFC_QC", "NFC_Quick_Check", "NFD_QC",
    "NFD_Quick_Check", "NFKC_QC", "NFKC_Quick_Check", "NFKD_QC", "NFKD_Quick_Check", "nt",
    "Numeric_Type", "SB", "Sentence_Break", "vo", "Vertical_Orientation", "WB", "Word_Break", "CE",
    "Composition_Exclusion", "Comp_Ex", "Full_Composition_Exclusion", "CWKCF",
    "Changes_When_NFKC_Casefolded", "Gr_Link", "Grapheme_Link", "ID_Compat_Math_Continue",
    "ID_Compat_Math_Start", "MCM", "Modifier_Combining_Mark", "OAlpha", "Other_Alphabetic", "ODI",
    "Other_Default_Ignorable_Code_Point", "OGr_Ext", "Other_Grapheme_Extend", "OIDC",
    "Other_ID_Continue", "OIDS", "Other_ID_Start", "OLower", "Other_Lowercase", "OMath",
    "Other_Math", "OUpper", "Other_Uppercase", "XO_NFC", "Expands_On_NFC", "XO_NFD",
    "Expands_On_NFD", "XO_NFKC", "Expands_On_NFKC", "XO_NFKD", "Expands_On_NFKD"]

/-- The names of the properties whose values are categories. -/
def categoryProperty : List String :=
  ["gc", "General_Category"]

/-- The names of the properties whose values are scripts. -/
def scriptProperty : List String :=
  ["sc", "Script"]

/-- The names of the property whose values are members of sets of scripts. -/
def scriptSetProperty : List String :=
  ["scx", "Script_Extensions"]

/-- The characters of a group of categories. No character is half of another, so there is no
answer for that category alone. -/
def ofCategories (categories : List Category) : Except QueryFault (Char → Bool) :=
  if categories = [.surrogate] then .error .unknownValue
  else .ok fun c => categories.contains (Category.ofChar c)

/-- The characters that a category or ASCII is asked for by. -/
def ofCategoryName? (loose : List Char) : Option (Except QueryFault (Char → Bool)) :=
  if isNamed loose ["ASCII"] then some (.ok (· < '\x80'))
  else (categoriesNamed? loose).map ofCategories

/-- The characters with a script. -/
def ofScript (script : List Char) : Except QueryFault (Char → Bool) :=
  if Script.isUsed script then .ok (Script.holds script) else .error .unknownValue

namespace Query

/-- The characters that have the property of a name. Three names stand for categories although they
are names of properties with values, too. -/
def answerNamed (loose : List Char) : Except QueryFault (Char → Bool) :=
  let isCategory := ["cf", "sc", "lc"].any (·.toList = loose)
  match BinaryProperty.all.find? fun property => isNamed loose property.names with
  | some property => .ok property.holds
  | none =>
    if !isCategory && isNamed loose
        (unsupported ++ categoryProperty ++ scriptProperty ++ scriptSetProperty) then
      .error .unknownProperty
    else
      match ofCategoryName? loose with
      | some answer => answer
      | none =>
        match scriptNamed? loose with
        | some script => ofScript script
        | none => .error .unknownProperty

/-- The characters whose property has a value. -/
def answerValued (name value : List Char) : Except QueryFault (Char → Bool) :=
  if isNamed name categoryProperty then
    (ofCategoryName? value).getD (.error .unknownValue)
  else if isNamed name scriptProperty then
    ((scriptNamed? value).map ofScript).getD (.error .unknownValue)
  else if isNamed name scriptSetProperty then
    match scriptNamed? value with
    | some script =>
      if Script.isUsed script then .ok (Script.isAmong script) else .error .unknownValue
    | none => .error .unknownValue
  else if isNamed name unsupported ||
      BinaryProperty.all.any fun property => isNamed name property.names then
    .error .unknownValue
  else .error .unknownProperty

/-- The characters that a question is about. -/
def answer : Query → Except QueryFault (Char → Bool)
  | named name => answerNamed (looseName name)
  | valued name value => answerValued (looseName name) (looseName value)

end Query

end DocMarkers.Unicode
