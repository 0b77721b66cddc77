import TreeFetch.Unicode.Age
import TreeFetch.Unicode.Property
import TreeFetch.Unicode.Script
import TreeFetch.Unicode.TextBoundary

/-!
# Looking properties up by name

Names of properties and of their values are compared loosely: case, spaces, dashes and underscores
do not count, nor does a leading `is`. `setNamed` answers a name alone, `setOfValue` a property with
a value.
-/

namespace TreeFetch.Unicode

/-- Why a lookup finds no set. -/
inductive LookupError
  | noProperty
  | noValue
deriving Repr, DecidableEq

/-! ## Names -/

/-- A character of a name in its loose form, if it counts. -/
def looseChar? (c : Char) : Option Char :=
  if c = ' ' || c = '_' || c = '-' || 0x80 ≤ c.toNat then none else some c.toLower

/-- The loose form of a name. A name of which only `c` would be left after `is` is the abbreviation
`isc` and stays whole. -/
def looseName (name : String) : List Char :=
  match name.toList with
  | i :: s :: rest =>
    if i.toLower = 'i' && s.toLower = 's' then
      let loose := rest.filterMap looseChar?
      if loose = ['c'] then ['i', 's', 'c'] else loose
    else (i :: s :: rest).filterMap looseChar?
  | short => short.filterMap looseChar?

/-- Whether one of `names` is `loose` in its loose form. -/
def goesBy (names : List String) (loose : List Char) : Bool :=
  names.any fun n => looseName n = loose

def findSet (sets : List NamedSet) (loose : List Char) : Option CharSet :=
  (sets.find? fun s => goesBy s.names loose).map (·.members)

/-! ## General categories and scripts -/

/-- The set of a general category. Surrogates have a name but no characters. -/
def categorySet (loose : List Char) : Option (Except LookupError CharSet) :=
  if goesBy ["Cs", "Surrogate"] loose then some (.error .noValue)
  else (findSet generalCategories loose).map .ok

def scriptAliases : List (String × String) := [("Qaac", "Coptic"), ("Qaai", "Inherited")]

def findScript (loose : List Char) : Option Script :=
  scripts.find? fun s =>
    goesBy [s.short, s.long] loose ||
      scriptAliases.any fun (other, long) => long = s.long && looseName other = loose

/-- Names of scripts that have no characters of their own. -/
def scriptsWithoutMembers : List String := ["Zzzz", "Unknown", "Hrkt", "Katakana_Or_Hiragana"]

def scriptSet (view : Script → CharSet) (loose : List Char) :
    Option (Except LookupError CharSet) :=
  if goesBy scriptsWithoutMembers loose then some (.error .noValue)
  else (findScript loose).map fun s => .ok (view s)

/-! ## Properties -/

/-- Abbreviations that are general categories first and properties only in other contexts. -/
def categoryAbbreviations : List String := ["cf", "sc", "lc"]

/-- The set that a name alone stands for: a property, else a general category, else a script. -/
def setNamed (name : String) : Except LookupError CharSet :=
  let loose := looseName name
  let property :=
    if goesBy categoryAbbreviations loose then none else (findSet properties loose).map .ok
  ((property.orElse fun _ => categorySet loose).orElse fun _ => scriptSet (·.members) loose).getD
    (.error .noProperty)

def propertiesWithoutValues : List String :=
  ["kAccountingNumeric", "cjkAccountingNumeric", "kOtherNumeric", "cjkOtherNumeric",
    "kPrimaryNumeric", "cjkPrimaryNumeric", "nv", "Numeric_Value", "bmg", "Bidi_Mirroring_Glyph",
    "bpb", "Bidi_Paired_Bracket", "cf", "Case_Folding", "kCompatibilityVariant",
    "cjkCompatibilityVariant", "dm", "Decomposition_Mapping", "EqUIdeo",
    "Equivalent_Unified_Ideograph", "FC_NFKC", "FC_NFKC_Closure", "lc", "Lowercase_Mapping",
    "NFKC_CF", "NFKC_Casefold", "NFKC_SCF", "NFKC_Simple_Casefold", "scf", "Simple_Case_Folding",
    "sfc", "slc", "Simple_Lowercase_Mapping", "stc", "Simple_Titlecase_Mapping", "suc",
    "Simple_Uppercase_Mapping", "tc", "Titlecase_Mapping", "uc", "Uppercase_Mapping", "kIICore",
    "cjkIICore", "kIRG_GSource", "cjkIRG_GSource", "kIRG_HSource", "cjkIRG_HSource",
    "kIRG_JSource", "cjkIRG_JSource", "kIRG_KPSource", "cjkIRG_KPSource", "kIRG_KSource",
    "cjkIRG_KSource", "kIRG_MSource", "cjkIRG_MSource", "kIRG_SSource", "cjkIRG_SSource",
    "kIRG_TSource", "cjkIRG_TSource", "kIRG_UKSource", "cjkIRG_UKSource", "kIRG_USource",
    "cjkIRG_USource", "kIRG_VSource", "cjkIRG_VSource", "kRSUnicode", "cjkRSUnicode",
    "Unicode_Radical_Stroke", "URS", "isc", "ISO_Comment", "JSN", "Jamo_Short_Name", "na", "Name",
    "na1", "Unicode_1_Name", "Name_Alias", "blk", "Block", "bc", "Bidi_Class", "bpt",
    "Bidi_Paired_Bracket_Type", "ccc", "Canonical_Combining_Class", "dt", "Decomposition_Type",
    "ea", "East_Asian_Width", "hst", "Hangul_Syllable_Type", "InCB", "Indic_Conjunct_Break",
    "InPC", "Indic_Positional_Category", "InSC", "Indic_Syllabic_Category", "jg", "Joining_Group",
    "jt", "Joining_Type", "lb", "Line_Break", "NFC_QC", "NFC_Quick_Check", "NFD_QC",
    "NFD_Quick_Check", "NFKC_QC", "NFKC_Quick_Check", "NFKD_QC", "NFKD_Quick_Check", "nt",
    "Numeric_Type", "vo", "Vertical_Orientation", "CE", "Composition_Exclusion", "Comp_Ex",
    "Full_Composition_Exclusion", "CWKCF", "Changes_When_NFKC_Casefolded", "Gr_Link",
    "Grapheme_Link", "XO_NFC", "Expands_On_NFC", "XO_NFD", "Expands_On_NFD", "XO_NFKC",
    "Expands_On_NFKC", "XO_NFKD", "Expands_On_NFKD", "ID_Compat_Math_Continue"]

def setOfValue (property value : String) : Except LookupError CharSet :=
  let name := looseName property
  let loose := looseName value
  let orNoValue (found : Option (Except LookupError CharSet)) : Except LookupError CharSet :=
    found.getD (.error .noValue)
  let inClasses (classes : List NamedSet) := orNoValue ((findSet classes loose).map .ok)
  if goesBy ["gc", "General_Category"] name then orNoValue (categorySet loose)
  else if goesBy ["sc", "Script"] name then orNoValue (scriptSet (·.members) loose)
  else if goesBy ["scx", "Script_Extensions"] name then orNoValue (scriptSet (·.extension) loose)
  else if goesBy ["age"] name then orNoValue ((agedUpTo fun v => goesBy v.names loose).map .ok)
  else if goesBy ["GCB", "Grapheme_Cluster_Break"] name then inClasses graphemeClasses
  else if goesBy ["WB", "Word_Break"] name then inClasses wordClasses
  else if goesBy ["SB", "Sentence_Break"] name then inClasses sentenceClasses
  else if goesBy propertiesWithoutValues name then .error .noValue
  else if properties.any fun p => goesBy p.names name then .error .noValue
  else .error .noProperty

end TreeFetch.Unicode
