import LinePalette.Unicode.Ages
import LinePalette.Unicode.Breaks
import LinePalette.Unicode.Categories
import LinePalette.Unicode.Folding
import LinePalette.Unicode.Properties
import LinePalette.Unicode.ScriptExtensions
import LinePalette.Unicode.Scripts

/-!
# Looking up properties by name

A pattern names a property loosely: case, blanks, hyphens and underscores do not
matter, and neither does a leading `is`.  The name alone may be a binary
property, a general category or a script; a name with a value asks for one value
of a property that has several.
-/

namespace LinePalette
namespace Unicode

/-!
# Names
-/

def dropIs (name : Text) : Text × Bool :=
  match name with
  | i :: s :: rest => if i.toLower = 'i' ∧ s.toLower = 's' then (rest, true) else (name, false)
  | _ => (name, false)

/--
The loose form of a name.  `isc` is the one name whose `is` is no prefix, since
`c` is a name of its own.
-/
def looseName (name : Text) : Text :=
  let (body, hadIs) := dropIs name
  let loose := (body.filter fun c =>
    c.toNat < 0x80 && c != ' ' && c != '_' && c != '-').map Char.toLower
  if hadIs && loose == ['c'] then "isc".toList else loose

/-!
# General categories
-/

def category (name : String) : CharSet :=
  (Table.lookup? categories name.toList).getD CharSet.empty

def categoryUnion (names : List String) : CharSet :=
  CharSet.unions (names.map category)

def categoryGroups : List (List String × List String) :=
  [
    (["c", "other"], ["cc", "cf", "cn", "co"]),
    (["l", "letter"], ["ll", "lm", "lo", "lt", "lu"]),
    (["lc", "casedletter"], ["ll", "lt", "lu"]),
    (["m", "mark", "combiningmark"], ["mc", "me", "mn"]),
    (["n", "number"], ["nd", "nl", "no"]),
    (["p", "punctuation", "punct"], ["pc", "pd", "pe", "pf", "pi", "po", "ps"]),
    (["s", "symbol"], ["sc", "sk", "sm", "so"]),
    (["z", "separator"], ["zl", "zp", "zs"])
  ]

def generalCategory? (name : Text) : Option CharSet :=
  if name == "any".toList then
    some (CharSet.range 0 CharSet.lastCode)
  else if name == "ascii".toList then
    some (CharSet.range 0 0x7F)
  else if name == "assigned".toList then
    some (category "cn").complement
  else
    match categoryGroups.find? fun (names, _) => names.any fun known => known.toList == name with
    | some (_, members) => some (categoryUnion members)
    | none => Table.lookup? categories name

/-!
# Binary properties

The derived properties follow the standard's rules; the others have tables.
-/

def property (name : String) : CharSet :=
  (Table.lookup? properties name.toList).getD CharSet.empty

def lowercase : CharSet := (category "ll").union (property "otherlowercase")

def uppercase : CharSet := (category "lu").union (property "otheruppercase")

def alphabetic : CharSet :=
  CharSet.unions
    [lowercase, uppercase, categoryUnion ["lt", "lm", "lo", "nl"], property "otheralphabetic"]

def graphemeExtend : CharSet :=
  (categoryUnion ["me", "mn"]).union (property "othergraphemeextend")

def patternReserved : CharSet :=
  (property "patternsyntax").union (property "patternwhitespace")

def idStart : CharSet :=
  ((categoryUnion ["ll", "lm", "lo", "lt", "lu", "nl"]).union (property "otheridstart")).diff
    patternReserved

def idContinue : CharSet :=
  (CharSet.unions
    [idStart, categoryUnion ["mn", "mc", "nd", "pc"], property "otheridcontinue"]).diff
    patternReserved

/-- Identifier characters whose compatibility forms are no identifiers. -/
def unstableContinue : CharSet :=
  CharSet.ofTable "37A 309B-309C FC5E-FC63 FDFA-FDFB FE70 FE72 FE74 FE76 FE78 FE7A FE7C FE7E"

def unstableStart : CharSet :=
  unstableContinue.union (CharSet.ofTable "E33 EB3 FF9E-FF9F")

/-- Format characters that are shown, although formats are ignorable by default. -/
def visibleFormats : CharSet :=
  (CharSet.ofTable "FFF9-FFFB 13430-13440").union (property "prependedconcatenationmark")

def derivedProperties : List (List String × (Unit -> CharSet)) :=
  [
    (["alphabetic", "alpha"], fun _ => alphabetic),
    (["lowercase", "lower"], fun _ => lowercase),
    (["uppercase", "upper"], fun _ => uppercase),
    (["cased"], fun _ => CharSet.unions [lowercase, uppercase, category "lt"]),
    (["math"], fun _ => (category "sm").union (property "othermath")),
    (["graphemeextend", "grext"], fun _ => graphemeExtend),
    (["graphemebase", "grbase"], fun _ =>
      ((categoryUnion ["cc", "cf", "cn", "co", "zl", "zp"]).union graphemeExtend).complement),
    (["idstart", "ids"], fun _ => idStart),
    (["idcontinue", "idc"], fun _ => idContinue),
    (["xidstart", "xids"], fun _ => idStart.diff unstableStart),
    (["xidcontinue", "xidc"], fun _ => idContinue.diff unstableContinue),
    (["changeswhencasemapped", "cwcm"], fun _ =>
      CharSet.unions [property "cwl", property "cwu", property "cwt"]),
    (["defaultignorablecodepoint", "di"], fun _ =>
      (CharSet.unions
        [property "odi", category "cf", property "variationselector"]).diff
        ((property "whitespace").union visibleFormats))
  ]

def binaryProperty? (name : Text) : Option CharSet :=
  match derivedProperties.find? fun (names, _) => names.any fun known => known.toList == name with
  | some (_, set) => some (set ())
  | none => Table.lookup? properties name

/-!
# Names of every kind
-/

def named? (name : Text) : Option CharSet :=
  let loose := looseName name
  ((binaryProperty? loose).or (generalCategory? loose)).or (Table.lookup? scripts loose)

def scriptExtension? (name : Text) : Option CharSet :=
  match Table.lookup? sharedScripts name with
  | some set => some set
  | none =>
      (Table.lookup? scripts name).map fun own =>
        match Table.lookup? scriptExtensions name with
        | some further => own.union further
        | none => own

def age? (name : Text) : Option CharSet :=
  match ages.findIdx? fun table => table.names.any fun known => known.toList == name with
  | some index => some (CharSet.unions ((ages.take (index + 1)).map Table.set))
  | none => none

def valued? (name value : Text) : Option CharSet :=
  let key := looseName name
  let choice := looseName value
  let goesBy (names : List String) : Bool := names.any fun known => known.toList == key
  if goesBy ["gc", "generalcategory"] then
    generalCategory? choice
  else if goesBy ["sc", "script"] then
    Table.lookup? scripts choice
  else if goesBy ["scx", "scriptextensions"] then
    scriptExtension? choice
  else if goesBy ["age"] then
    age? choice
  else if goesBy ["gcb", "graphemeclusterbreak"] then
    Table.lookup? graphemeBreaks choice
  else if goesBy ["wb", "wordbreak"] then
    Table.lookup? wordBreaks choice
  else if goesBy ["sb", "sentencebreak"] then
    Table.lookup? sentenceBreaks choice
  else
    none

/-!
# The sets behind the short classes
-/

def digits : CharSet := category "nd"

def blanks : CharSet :=
  CharSet.ofTable "9-D 20 85 A0 1680 2000-200A 2028-2029 202F 205F 3000"

def wordCharacters : CharSet :=
  CharSet.unions
    [alphabetic, categoryUnion ["mc", "me", "mn", "nd", "pc"], property "joincontrol"]

def alphanumeric : CharSet := alphabetic.union (categoryUnion ["nd", "nl", "no"])

end Unicode
end LinePalette
