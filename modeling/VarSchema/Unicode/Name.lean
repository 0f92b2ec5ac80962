import VarSchema.Unicode.Age
import VarSchema.Unicode.Segmentation

/-!
# Names of properties

* `PropertyName.normalize` : names match whatever their case, blanks, underscores and hyphens;
* `PropertyName.set` : the characters of a property, general category or script;
  `PropertyName.valueSet` : the characters for which a property has a value;
* `PropertyFault` : why a name has no set.
-/

namespace VarSchema

/-- Why a name of a property, or of a property and a value, has no set of characters. -/
inductive PropertyFault where
  | unknownName
  | unknownValue
deriving DecidableEq

namespace PropertyName

/-- The name without case, blanks, underscores, hyphens and a leading "is". -/
def normalize (name : List Char) : String :=
  let (stripped, rest) := match name with
    | a :: b :: r => if a.toLower = 'i' ∧ b.toLower = 's' then (true, r) else (false, name)
    | _ => (false, name)
  let kept := (rest.filter fun c => c ≠ ' ' && c ≠ '_' && c ≠ '-' && decide (c.toNat < 0x80)).map
    Char.toLower
  if stripped && kept == ['c'] then "isc" else String.ofList kept

/-- The characters with a property that they have or have not. -/
def binary? (name : String) : Option CharSet :=
  match name with
  | "asciihexdigit" | "ahex" => some (.ofTable Listed.asciiHexDigit)
  | "alphabetic" | "alpha" => some Derived.alphabetic
  | "bidicontrol" | "bidic" => some (.ofTable Listed.bidiControl)
  | "bidimirrored" | "bidim" => some (.ofTable Listed.bidiMirrored)
  | "cased" => some Derived.cased
  | "caseignorable" | "ci" => some Derived.caseIgnorable
  | "changeswhencasefolded" | "cwcf" => some (.ofTable Listed.changesWhenCasefolded)
  | "changeswhencasemapped" | "cwcm" => some Derived.changesWhenCasemapped
  | "changeswhenlowercased" | "cwl" => some (.ofTable Listed.changesWhenLowercased)
  | "changeswhentitlecased" | "cwt" => some (.ofTable Listed.changesWhenTitlecased)
  | "changeswhenuppercased" | "cwu" => some (.ofTable Listed.changesWhenUppercased)
  | "dash" => some (.ofTable Listed.dash)
  | "deprecated" | "dep" => some (.ofTable Listed.deprecated)
  | "defaultignorablecodepoint" | "di" => some Derived.defaultIgnorable
  | "diacritic" | "dia" => some (.ofTable Listed.diacritic)
  | "emojimodifierbase" | "ebase" => some (.ofTable Listed.emojiModifierBase)
  | "emojicomponent" | "ecomp" => some (.ofTable Listed.emojiComponent)
  | "emojimodifier" | "emod" => some (.ofTable Listed.emojiModifier)
  | "emoji" => some (.ofTable Listed.emoji)
  | "emojipresentation" | "epres" => some (.ofTable Listed.emojiPresentation)
  | "extender" | "ext" => some (.ofTable Listed.extender)
  | "extendedpictographic" | "extpict" => some (.ofTable Listed.extendedPictographic)
  | "graphemebase" | "grbase" => some Derived.graphemeBase
  | "graphemeextend" | "grext" => some Derived.graphemeExtend
  | "graphemelink" | "grlink" => some (.ofTable Listed.graphemeLink)
  | "hexdigit" | "hex" => some (.ofTable Listed.hexDigit)
  | "hyphen" => some (.ofTable Listed.hyphen)
  | "idcompatmathcontinue" => some (.ofTable Listed.idCompatMathContinue)
  | "idcompatmathstart" => some (.ofTable Listed.idCompatMathStart)
  | "idcontinue" | "idc" => some Derived.idContinue
  | "ideographic" | "ideo" => some (.ofTable Listed.ideographic)
  | "idstart" | "ids" => some Derived.idStart
  | "idsbinaryoperator" | "idsb" => some (.ofTable Listed.idsBinaryOperator)
  | "idstrinaryoperator" | "idst" => some (.ofTable Listed.idsTrinaryOperator)
  | "idsunaryoperator" | "idsu" => some (.ofTable Listed.idsUnaryOperator)
  | "joincontrol" | "joinc" => some (.ofTable Listed.joinControl)
  | "logicalorderexception" | "loe" => some (.ofTable Listed.logicalOrderException)
  | "lowercase" | "lower" => some Derived.lowercase
  | "math" => some Derived.math
  | "modifiercombiningmark" | "mcm" => some (.ofTable Listed.modifierCombiningMark)
  | "noncharactercodepoint" | "nchar" => some (.ofTable Listed.noncharacterCodePoint)
  | "otheralphabetic" | "oalpha" => some (.ofTable Listed.otherAlphabetic)
  | "otherdefaultignorablecodepoint" | "odi" =>
    some (.ofTable Listed.otherDefaultIgnorableCodePoint)
  | "othergraphemeextend" | "ogrext" => some (.ofTable Listed.otherGraphemeExtend)
  | "otheridcontinue" | "oidc" => some (.ofTable Listed.otherIdContinue)
  | "otheridstart" | "oids" => some (.ofTable Listed.otherIdStart)
  | "otherlowercase" | "olower" => some (.ofTable Listed.otherLowercase)
  | "othermath" | "omath" => some (.ofTable Listed.otherMath)
  | "otheruppercase" | "oupper" => some (.ofTable Listed.otherUppercase)
  | "patternsyntax" | "patsyn" => some (.ofTable Listed.patternSyntax)
  | "patternwhitespace" | "patws" => some (.ofTable Listed.patternWhiteSpace)
  | "prependedconcatenationmark" | "pcm" => some (.ofTable Listed.prependedConcatenationMark)
  | "quotationmark" | "qmark" => some (.ofTable Listed.quotationMark)
  | "radical" => some (.ofTable Listed.radical)
  | "regionalindicator" | "ri" => some (.ofTable Listed.regionalIndicator)
  | "softdotted" | "sd" => some (.ofTable Listed.softDotted)
  | "sentenceterminal" | "sterm" => some (.ofTable Listed.sentenceTerminal)
  | "terminalpunctuation" | "term" => some (.ofTable Listed.terminalPunctuation)
  | "unifiedideograph" | "uideo" => some (.ofTable Listed.unifiedIdeograph)
  | "uppercase" | "upper" => some Derived.uppercase
  | "variationselector" | "vs" => some (.ofTable Listed.variationSelector)
  | "whitespace" | "wspace" | "space" => some (.ofTable Listed.whiteSpace)
  | "xidcontinue" | "xidc" => some Derived.xidContinue
  | "xidstart" | "xids" => some Derived.xidStart
  | _ => none

/-- Names of properties with other values than yes and no, or that are not used for sets. -/
def others : List String := (
  "age bc bidiclass bidimirroringglyph bidipairedbracket bidipairedbrackettype blk block bmg " ++
  "bpb bpt canonicalcombiningclass casefolding ccc ce cf changeswhennfkccasefolded " ++
  "cjkaccountingnumeric cjkcompatibilityvariant cjkiicore cjkirggsource cjkirghsource " ++
  "cjkirgjsource cjkirgkpsource cjkirgksource cjkirgmsource cjkirgssource cjkirgtsource " ++
  "cjkirguksource cjkirgusource cjkirgvsource cjkmandarin cjkothernumeric cjkprimarynumeric " ++
  "cjkrsunicode cjktotalstrokes cjkunihancore2020 compex compositionexclusion cwkcf " ++
  "decompositionmapping decompositiontype dm dt ea eastasianwidth equideo " ++
  "equivalentunifiedideograph expandsonnfc expandsonnfd expandsonnfkc expandsonnfkd fcnfkc " ++
  "fcnfkcclosure fullcompositionexclusion gc gcb generalcategory graphemeclusterbreak " ++
  "hangulsyllabletype hst incb indicconjunctbreak indicpositionalcategory " ++
  "indicsyllabiccategory inpc insc isc jamoshortname jg joininggroup joiningtype jsn jt " ++
  "kaccountingnumeric kcompatibilityvariant kehaltseq kehcat kehcore kehdesc kehfunc kehfval " ++
  "kehhg kehifao kehjsesh kehnomirror kehnorotate kehunik kiicore kirggsource kirghsource " ++
  "kirgjsource kirgkpsource kirgksource kirgmsource kirgssource kirgtsource kirguksource " ++
  "kirgusource kirgvsource kmandarin kothernumeric kprimarynumeric krsunicode ktotalstrokes " ++
  "kunihancore2020 lb lc linebreak lowercasemapping na na1 name namealias nfcqc nfcquickcheck " ++
  "nfdqc nfdquickcheck nfkccasefold nfkccf nfkcqc nfkcquickcheck nfkcscf nfkcsimplecasefold " ++
  "nfkdqc nfkdquickcheck nt numerictype numericvalue nv sb sc scf script scriptextensions scx " ++
  "sentencebreak sfc simplecasefolding simplelowercasemapping simpletitlecasemapping " ++
  "simpleuppercasemapping slc stc suc tc titlecasemapping uc unicode1name unicoderadicalstroke " ++
  "uppercasemapping urs verticalorientation vo wb wordbreak xonfc xonfd xonfkc xonfkd").splitOn " "

def isProperty (name : String) : Bool := (binary? name).isSome || others.contains name

/-- The characters of a general category or of a group of them. A surrogate is no character, so that
category has no set. -/
def category? (name : String) : Option (Except PropertyFault CharSet) :=
  let members (cs : List Category) := some (.ok (Category.union cs))
  match name with
  | "any" => some (.ok .full)
  | "assigned" => some (.ok Category.unassigned.complement)
  | "ascii" => some (.ok (.ofTable "0-7f"))
  | "c" | "other" =>
    some (.ok (.union Category.unassigned (Category.union [.control, .format, .privateUse])))
  | "cc" | "control" | "cntrl" => members [.control]
  | "cf" | "format" => members [.format]
  | "cn" | "unassigned" => some (.ok Category.unassigned)
  | "co" | "privateuse" => members [.privateUse]
  | "cs" | "surrogate" => some (.error .unknownValue)
  | "l" | "letter" => members Category.letters
  | "lc" | "casedletter" => members [.uppercaseLetter, .lowercaseLetter, .titlecaseLetter]
  | "ll" | "lowercaseletter" => members [.lowercaseLetter]
  | "lm" | "modifierletter" => members [.modifierLetter]
  | "lo" | "otherletter" => members [.otherLetter]
  | "lt" | "titlecaseletter" => members [.titlecaseLetter]
  | "lu" | "uppercaseletter" => members [.uppercaseLetter]
  | "m" | "mark" | "combiningmark" => members Category.marks
  | "mc" | "spacingmark" => members [.spacingMark]
  | "me" | "enclosingmark" => members [.enclosingMark]
  | "mn" | "nonspacingmark" => members [.nonspacingMark]
  | "n" | "number" => members Category.numbers
  | "nd" | "decimalnumber" | "digit" => members [.decimalNumber]
  | "nl" | "letternumber" => members [.letterNumber]
  | "no" | "othernumber" => members [.otherNumber]
  | "p" | "punctuation" | "punct" => members Category.punctuation
  | "pc" | "connectorpunctuation" => members [.connectorPunctuation]
  | "pd" | "dashpunctuation" => members [.dashPunctuation]
  | "pe" | "closepunctuation" => members [.closePunctuation]
  | "pf" | "finalpunctuation" => members [.finalPunctuation]
  | "pi" | "initialpunctuation" => members [.initialPunctuation]
  | "po" | "otherpunctuation" => members [.otherPunctuation]
  | "ps" | "openpunctuation" => members [.openPunctuation]
  | "s" | "symbol" => members Category.symbols
  | "sc" | "currencysymbol" => members [.currencySymbol]
  | "sk" | "modifiersymbol" => members [.modifierSymbol]
  | "sm" | "mathsymbol" => members [.mathSymbol]
  | "so" | "othersymbol" => members [.otherSymbol]
  | "z" | "separator" => members Category.separators
  | "zl" | "lineseparator" => members [.lineSeparator]
  | "zp" | "paragraphseparator" => members [.paragraphSeparator]
  | "zs" | "spaceseparator" => members [.spaceSeparator]
  | _ => none

def script? (name : String) : Option Script :=
  let code := match name with
    | "qaac" => "copt"
    | "qaai" => "zinh"
    | n => n
  Script.all.find? fun s => normalize s.name.toList == code || normalize s.code.toList == code

/-- Whether this names the scripts that are not listed: unknown ones, and Katakana with Hiragana. -/
def isUnlistedScript (name : String) : Bool :=
  ["zzzz", "unknown", "hrkt", "katakanaorhiragana"].contains name

def scriptSet? (name : String) : Option (Except PropertyFault CharSet) :=
  if isUnlistedScript name then some (.error .unknownValue)
  else (script? name).map fun s => .ok s.set

/-- The set of a name in normal form, behind which stands no value. Three names of properties are
also names of categories, which go first. -/
def normalSet (name : String) : Except PropertyFault CharSet :=
  if isProperty name && !(["cf", "sc", "lc"].contains name) then
    match binary? name with
    | some s => .ok s
    | none => .error .unknownName
  else
    match (category? name).or (scriptSet? name) with
    | some s => s
    | none => .error .unknownName

def set (name : List Char) : Except PropertyFault CharSet := normalSet (normalize name)

/-! ## Values -/

/-- The version of the standard in a name: its number, or `v` and its digits. -/
def version (name : String) : String :=
  match Age.additions.find? fun a => "v" ++ a.1.replace "." "" == name with
  | some a => a.1
  | none => name

/-- The short name of a class of user-perceived characters. -/
def graphemeBreakName (name : String) : String :=
  match name with
  | "control" => "CN"
  | "extend" => "EX"
  | "prepend" => "PP"
  | "regionalindicator" => "RI"
  | "spacingmark" => "SM"
  | n => n.map Char.toUpper

def wordBreakName (name : String) : String :=
  match name with
  | "aletter" => "LE"
  | "doublequote" => "DQ"
  | "extend" => "Extend"
  | "extendnumlet" => "EX"
  | "format" => "FO"
  | "hebrewletter" => "HL"
  | "katakana" => "KA"
  | "midletter" => "ML"
  | "midnum" => "MN"
  | "midnumlet" => "MB"
  | "newline" => "NL"
  | "numeric" => "NU"
  | "regionalindicator" => "RI"
  | "singlequote" => "SQ"
  | "wsegspace" => "WSegSpace"
  | n => n.map Char.toUpper

def sentenceBreakName (name : String) : String :=
  match name with
  | "aterm" => "AT"
  | "close" => "CL"
  | "extend" => "EX"
  | "format" => "FO"
  | "lower" => "LO"
  | "numeric" => "NU"
  | "oletter" => "LE"
  | "scontinue" => "SC"
  | "sep" => "SE"
  | "sp" => "SP"
  | "sterm" => "ST"
  | "upper" => "UP"
  | n => n.map Char.toUpper

def ofValue? (s : Option CharSet) : Except PropertyFault CharSet :=
  match s with
  | some s => .ok s
  | none => .error .unknownValue

/-- The set of a property and a value, both in normal form. -/
def normalValueSet (name value : String) : Except PropertyFault CharSet :=
  match name with
  | "gc" | "generalcategory" => (category? value).getD (.error .unknownValue)
  | "sc" | "script" => (scriptSet? value).getD (.error .unknownValue)
  | "scx" | "scriptextensions" =>
    if isUnlistedScript value then .error .unknownValue
    else ofValue? ((script? value).map Script.extended)
  | "age" => ofValue? (Age.set? (version value))
  | "gcb" | "graphemeclusterbreak" => ofValue? (GraphemeBreak.set? (graphemeBreakName value))
  | "wb" | "wordbreak" => ofValue? (WordBreak.set? (wordBreakName value))
  | "sb" | "sentencebreak" => ofValue? (SentenceBreak.set? (sentenceBreakName value))
  | name => .error (if isProperty name then .unknownValue else .unknownName)

def valueSet (name value : List Char) : Except PropertyFault CharSet :=
  normalValueSet (normalize name) (normalize value)

end PropertyName

end VarSchema
