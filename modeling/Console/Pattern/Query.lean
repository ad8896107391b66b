import Console.Pattern.Age
import Console.Pattern.Break
import Console.Pattern.Script

/-!
# Names of properties

The sets of characters that names in a pattern stand for.  A name is read without regard to case, to
blanks, hyphens and underscores, and to a leading `is`.
-/

namespace Console

/-- Properties that patterns cannot ask for by themselves; they are known only so that asking for
one of their values is told apart from asking for nothing. -/
def otherProperties : List String :=
  ["age", "bc", "bidiclass", "bidimirroringglyph", "bidipairedbracket", "bidipairedbrackettype",
   "blk", "block", "bmg", "bpb", "bpt", "canonicalcombiningclass", "casefolding", "ccc", "ce",
   "cf", "changeswhennfkccasefolded", "cjkaccountingnumeric", "cjkcompatibilityvariant",
   "cjkiicore", "cjkirggsource", "cjkirghsource", "cjkirgjsource", "cjkirgkpsource",
   "cjkirgksource", "cjkirgmsource", "cjkirgssource", "cjkirgtsource", "cjkirguksource",
   "cjkirgusource", "cjkirgvsource", "cjkothernumeric", "cjkprimarynumeric", "cjkrsunicode",
   "compex", "compositionexclusion", "cwkcf", "decompositionmapping", "decompositiontype", "dm",
   "dt", "ea", "eastasianwidth", "equideo", "equivalentunifiedideograph", "expandsonnfc",
   "expandsonnfd", "expandsonnfkc", "expandsonnfkd", "fcnfkc", "fcnfkcclosure",
   "fullcompositionexclusion", "gc", "gcb", "generalcategory", "graphemeclusterbreak",
   "hangulsyllabletype", "hst", "incb", "indicconjunctbreak", "indicpositionalcategory",
   "indicsyllabiccategory", "inpc", "insc", "isc", "jamoshortname", "jg", "joininggroup",
   "joiningtype", "jsn", "jt", "kaccountingnumeric", "kcompatibilityvariant", "kehcat", "kehdesc",
   "kehhg", "kehifao", "kehjsesh", "kehnomirror", "kehnorotate", "kiicore", "kirggsource",
   "kirghsource", "kirgjsource", "kirgkpsource", "kirgksource", "kirgmsource", "kirgssource",
   "kirgtsource", "kirguksource", "kirgusource", "kirgvsource", "kothernumeric", "kprimarynumeric",
   "krsunicode", "lb", "lc", "linebreak", "lowercasemapping", "na", "na1", "name", "namealias",
   "nfcqc", "nfcquickcheck", "nfdqc", "nfdquickcheck", "nfkccasefold", "nfkccf", "nfkcqc",
   "nfkcquickcheck", "nfkcscf", "nfkcsimplecasefold", "nfkdqc", "nfkdquickcheck", "nt",
   "numerictype", "numericvalue", "nv", "ocomment", "sb", "sc", "scf", "script",
   "scriptextensions", "scx", "sentencebreak", "sfc", "simplecasefolding",
   "simplelowercasemapping", "simpletitlecasemapping", "simpleuppercasemapping", "slc", "stc",
   "suc", "tc", "titlecasemapping", "uc", "unicode1name", "unicoderadicalstroke",
   "uppercasemapping", "urs", "verticalorientation", "vo", "wb", "wordbreak", "xonfc", "xonfd",
   "xonfkc", "xonfkd"]

/-- Why a name stands for no set of characters. -/
inductive PropertyFault where
  | unknownProperty
  | unknownValue
  deriving DecidableEq, Repr

namespace Property

/-- A name in lower case and without separators, a leading `is` and characters outside ASCII. -/
def plainName (name : List Char) : String :=
  let (isLeading, rest) :=
    match name with
    | i :: s :: rest =>
        if (i == 'i' || i == 'I') && (s == 's' || s == 'S') then (true, rest) else (false, name)
    | _ => (false, name)
  let letters := rest.filter fun c => c.toNat < 0x80 && !(c == ' ' || c == '_' || c == '-')
  let plain := String.ofList (letters.map Char.toLower)
  if isLeading && plain == "c" then "isc" else plain

/-- The set that a category, by its plain name, stands for. -/
def ofCategory? (name : String) : Except PropertyFault (Option Text.Ranges) :=
  if Category.isSurrogate name then .error .unknownValue else .ok (Category.find? name)

/-- The set that a script, by its plain name, stands for. -/
def ofScript? (name : String) (view : Script → Text.Ranges) :
    Except PropertyFault (Option Text.Ranges) :=
  if Script.isVacant name then .error .unknownValue else .ok ((Script.find? name).map view)

/-- The set that a name standing alone is for: a property, a category or a script, in this
order.  Three short names are those of categories although properties bear them too. -/
def lookUp (name : List Char) : Except PropertyFault Text.Ranges := do
  let name := plainName name
  let isCategory := name == "cf" || name == "sc" || name == "lc"
  if !isCategory then
    if let some property := find? name then return property.characters
    if otherProperties.contains name then throw .unknownProperty
  if let some set ← ofCategory? name then return set
  if let some set ← ofScript? name Script.characters then return set
  throw .unknownProperty

/-- The set of a class of characters in a table of classes. -/
def ofTable? (table : List Property) (name : String) : Option Text.Ranges :=
  (table.find? fun entry => entry.names.contains name).map characters

/-- The set of the characters for which a property has a value. -/
def lookUpValue (name value : List Char) : Except PropertyFault Text.Ranges := do
  let name := plainName name
  let value := plainName value
  let found ←
    match name with
    | "gc" | "generalcategory" => ofCategory? value
    | "sc" | "script" => ofScript? value Script.characters
    | "scx" | "scriptextensions" => ofScript? value Script.extended
    | "age" => pure (Age.find? value)
    | "gcb" | "graphemeclusterbreak" => pure (ofTable? graphemeBreaks value)
    | "wb" | "wordbreak" => pure (ofTable? wordBreaks value)
    | "sb" | "sentencebreak" => pure (ofTable? sentenceBreaks value)
    | _ =>
        if (find? name).isSome || otherProperties.contains name then pure none
        else throw .unknownProperty
  match found with
  | some set => return set
  | none => throw .unknownValue

end Property

end Console
