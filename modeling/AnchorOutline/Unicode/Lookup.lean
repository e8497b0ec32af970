import AnchorOutline.Unicode.Age
import AnchorOutline.Unicode.Property
import AnchorOutline.Unicode.Script

/-!
# Characters by the name of a property

Names are compared loosely: letter case, spaces, hyphens, underscores and a leading `is` do not
matter. A lone name is a binary property, a general category or a script, in that order; a pair is
a property and one of its values.

* `looseName` : the form in which names are compared;
* `charsNamed` : the characters of a lone name;
* `charsWithValue` : the characters whose property has a value.
-/

namespace AnchorOutline.Unicode

inductive LookupError where
  | unknownProperty
  | unknownValue
  deriving Repr, DecidableEq

/-- The letters, digits and signs that a name is compared by. -/
def looseChars (cs : List Char) : List Char :=
  (cs.filter fun c => c.toNat < 0x80 && c != ' ' && c != '_' && c != '-').map Char.toLower

/-- The form in which names are compared. A leading `is` is dropped, but `isc` stays, since it is
a name of its own. -/
def looseName (name : String) : String :=
  match name.toList with
  | i :: s :: rest =>
    if i.toLower = 'i' ∧ s.toLower = 's' then
      let bare := looseChars rest
      if bare = ['c'] then "isc" else String.ofList bare
    else String.ofList (looseChars name.toList)
  | cs => String.ofList (looseChars cs)

/-! ## General categories -/

/-- The general categories and their groups, each with its names. Surrogates have a name but no
characters. -/
def categoryNames : List (List String × CharSet) := [
  (["c", "other"], Category.others),
  (["cc", "control", "cntrl"], Category.controlChars),
  (["cf", "format"], Category.formatChars),
  (["cn", "unassigned"], Category.unassigned),
  (["co", "privateuse"], Category.privateUseChars),
  (["l", "letter"], Category.letters),
  (["lc", "casedletter"], Category.casedLetters),
  (["ll", "lowercaseletter"], Category.lowercaseLetterChars),
  (["lm", "modifierletter"], Category.modifierLetterChars),
  (["lo", "otherletter"], Category.otherLetterChars),
  (["lt", "titlecaseletter"], Category.titlecaseLetterChars),
  (["lu", "uppercaseletter"], Category.uppercaseLetterChars),
  (["m", "mark", "combiningmark"], Category.marks),
  (["mc", "spacingmark"], Category.spacingMarkChars),
  (["me", "enclosingmark"], Category.enclosingMarkChars),
  (["mn", "nonspacingmark"], Category.nonspacingMarkChars),
  (["n", "number"], Category.numbers),
  (["nd", "decimalnumber", "digit"], Category.decimalNumberChars),
  (["nl", "letternumber"], Category.letterNumberChars),
  (["no", "othernumber"], Category.otherNumberChars),
  (["p", "punctuation", "punct"], Category.punctuation),
  (["pc", "connectorpunctuation"], Category.connectorPunctuationChars),
  (["pd", "dashpunctuation"], Category.dashPunctuationChars),
  (["pe", "closepunctuation"], Category.closePunctuationChars),
  (["pf", "finalpunctuation"], Category.finalPunctuationChars),
  (["pi", "initialpunctuation"], Category.initialPunctuationChars),
  (["po", "otherpunctuation"], Category.otherPunctuationChars),
  (["ps", "openpunctuation"], Category.openPunctuationChars),
  (["s", "symbol"], Category.symbols),
  (["sc", "currencysymbol"], Category.currencySymbolChars),
  (["sk", "modifiersymbol"], Category.modifierSymbolChars),
  (["sm", "mathsymbol"], Category.mathSymbolChars),
  (["so", "othersymbol"], Category.otherSymbolChars),
  (["z", "separator"], Category.separators),
  (["zl", "lineseparator"], Category.lineSeparatorChars),
  (["zp", "paragraphseparator"], Category.paragraphSeparatorChars),
  (["zs", "spaceseparator"], Category.spaceSeparatorChars),
  (["any"], CharSet.ofRange 0 lastCodePoint),
  (["assigned"], Category.assigned),
  (["ascii"], CharSet.ofRange 0 0x7F)]

def emptyCategoryNames : List String := ["cs", "surrogate"]

/-- What a name says in a value space: nothing, a value without a table, or characters. -/
def findCategory (loose : String) : Option (Except LookupError CharSet) :=
  match categoryNames.find? fun row => row.1.contains loose with
  | some row => some (.ok row.2)
  | none => if emptyCategoryNames.contains loose then some (.error .unknownValue) else none

/-! ## Scripts -/

def emptyScriptNames : List String := ["hrkt", "katakanaorhiragana", "zzzz", "unknown"]

def Script.looseNames (s : Script) : List String := (s.code :: s.name :: s.otherNames).map looseName

def findScript (chars : Script → CharSet) (loose : String) : Option (Except LookupError CharSet) :=
  match scripts.find? fun s => s.looseNames.contains loose with
  | some s => some (.ok (chars s))
  | none => if emptyScriptNames.contains loose then some (.error .unknownValue) else none

/-! ## Properties -/

def findBinary (loose : String) : Option CharSet :=
  (binaryProperties.find? fun p => (p.names.map looseName).contains loose).map BinaryProperty.chars

/-- Names of properties whose values have no table of characters. -/
def otherPropertyNames : List String := [
  "bc", "bidiclass", "bidimirroringglyph", "bidipairedbracket", "bidipairedbrackettype", "blk",
  "block", "bmg", "bpb", "bpt", "canonicalcombiningclass", "casefolding", "ccc", "ce", "cf",
  "changeswhennfkccasefolded", "cjkaccountingnumeric", "cjkcompatibilityvariant",
  "cjkiicore", "cjkirggsource", "cjkirghsource", "cjkirgjsource", "cjkirgkpsource",
  "cjkirgksource", "cjkirgmsource", "cjkirgssource", "cjkirgtsource", "cjkirguksource",
  "cjkirgusource", "cjkirgvsource", "cjkothernumeric", "cjkprimarynumeric", "cjkrsunicode",
  "compex", "compositionexclusion", "cwkcf", "decompositionmapping", "decompositiontype", "dm",
  "dt", "ea", "eastasianwidth", "equideo", "equivalentunifiedideograph", "expandsonnfc",
  "expandsonnfd", "expandsonnfkc", "expandsonnfkd", "fcnfkc", "fcnfkcclosure",
  "fullcompositionexclusion", "hangulsyllabletype", "hst", "incb", "indicconjunctbreak",
  "indicpositionalcategory", "indicsyllabiccategory", "inpc", "insc", "isc", "isocomment",
  "jamoshortname", "jg", "joininggroup", "joiningtype", "jsn", "jt", "kaccountingnumeric",
  "kcompatibilityvariant", "kehcat", "kehdesc", "kehhg", "kehifao", "kehjsesh", "kehnomirror",
  "kehnorotate", "kiicore", "kirggsource", "kirghsource", "kirgjsource", "kirgkpsource",
  "kirgksource", "kirgmsource", "kirgssource", "kirgtsource", "kirguksource", "kirgusource",
  "kirgvsource", "kothernumeric", "kprimarynumeric", "krsunicode", "lb", "linebreak",
  "lowercasemapping", "na", "na1", "name", "namealias", "nfcqc", "nfcquickcheck", "nfdqc",
  "nfdquickcheck", "nfkccasefold", "nfkccf", "nfkcqc", "nfkcquickcheck", "nfkcscf",
  "nfkcsimplecasefold", "nfkdqc", "nfkdquickcheck", "nt", "numerictype", "numericvalue", "nv",
  "scf", "sfc", "simplecasefolding", "simplelowercasemapping", "simpletitlecasemapping",
  "simpleuppercasemapping", "slc", "stc", "suc", "tc", "titlecasemapping", "uc",
  "unicode1name", "unicoderadicalstroke", "uppercasemapping", "urs", "verticalorientation", "vo",
  "xonfc", "xonfd", "xonfkc", "xonfkd"]

/-- Names of the properties whose values can be asked for. -/
def valuedPropertyNames : List String := [
  "age", "gc", "generalcategory", "sc", "script", "scx", "scriptextensions"]

/-- The characters of a lone name: a binary property, a general category or a script. Three
abbreviations of other properties are read as categories. -/
def charsNamed (name : String) : Except LookupError CharSet :=
  let loose := looseName name
  let readAsCategory := ["cf", "sc", "lc"].contains loose
  if !readAsCategory && (findBinary loose).isSome then
    .ok ((findBinary loose).getD .empty)
  else if !readAsCategory && (otherPropertyNames ++ valuedPropertyNames).contains loose then
    .error .unknownProperty
  else
    ((findCategory loose).or (findScript Script.chars loose)).getD (.error .unknownProperty)

/-- The characters whose property, given by name, has the named value. -/
def charsWithValue (property value : String) : Except LookupError CharSet :=
  let p := looseName property
  let v := looseName value
  if p = "gc" ∨ p = "generalcategory" then (findCategory v).getD (.error .unknownValue)
  else if p = "sc" ∨ p = "script" then
    (findScript Script.chars v).getD (.error .unknownValue)
  else if p = "scx" ∨ p = "scriptextensions" then
    (findScript Script.extendedChars v).getD (.error .unknownValue)
  else if p = "age" then
    match charsOfAge? v with
    | some s => .ok s
    | none => .error .unknownValue
  else if (findBinary p).isSome || (otherPropertyNames ++ valuedPropertyNames).contains p then
    .error .unknownValue
  else .error .unknownProperty

end AnchorOutline.Unicode
