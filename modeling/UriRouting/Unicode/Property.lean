import UriRouting.Unicode.BinaryProperty
import UriRouting.Unicode.CharSet
import UriRouting.Unicode.GeneralCategory
import UriRouting.Unicode.ScriptExtensions
import UriRouting.Unicode.WhiteSpace

/-!
# UriRouting.Unicode.Property

Character properties by name.

* `named?` finds a set by the name of a property, of a general category or of a
  script, `valued?` by a property and its value.
* Names are compared loosely (`looseName`): case, spaces, hyphens and underscores
  do not matter, nor does a leading "is".

The classes of digits, white space and word characters stand here as well, since they
are unions of categories and properties.
-/

namespace UriRouting.Unicode

namespace Property

open GeneralCategory BinaryProperty CharSet

/-! ### General categories -/

/-- The union of some tables. -/
def tables (ts : List Table) : CharSet :=
  unions (ts.map table)

/-- The letters. -/
def letter : CharSet :=
  tables [uppercaseLetter, lowercaseLetter, titlecaseLetter, modifierLetter, otherLetter]

/-- The letters that have case. -/
def casedLetter : CharSet :=
  tables [uppercaseLetter, lowercaseLetter, titlecaseLetter]

/-- The marks. -/
def mark : CharSet :=
  tables [nonspacingMark, spacingMark, enclosingMark]

/-- The numbers. -/
def number : CharSet :=
  tables [decimalNumber, letterNumber, otherNumber]

/-- The punctuation. -/
def punctuation : CharSet :=
  tables [connectorPunctuation, dashPunctuation, openPunctuation, closePunctuation,
    initialPunctuation, finalPunctuation, otherPunctuation]

/-- The symbols. -/
def symbol : CharSet :=
  tables [mathSymbol, currencySymbol, modifierSymbol, otherSymbol]

/-- The separators. -/
def separator : CharSet :=
  tables [spaceSeparator, lineSeparator, paragraphSeparator]

/-- The characters without a category of their own. -/
def unassigned : CharSet :=
  compl (tables assigned)

/-- Controls, format characters, private use and what is unassigned. -/
def other : CharSet :=
  unions [table control, table format, table privateUse, unassigned]

/-- General categories, single and grouped, under their names. -/
def generalCategories : List (String × CharSet) :=
  [("any", all), ("assigned", tables assigned), ("ascii", table [⟨0, 0x7F, 1⟩]),
   ("c", other), ("other", other),
   ("cc", table control), ("control", table control), ("cntrl", table control),
   ("cf", table format), ("format", table format),
   ("cn", unassigned), ("unassigned", unassigned),
   ("co", table privateUse), ("privateuse", table privateUse),
   ("l", letter), ("letter", letter),
   ("lc", casedLetter), ("casedletter", casedLetter),
   ("ll", table lowercaseLetter), ("lowercaseletter", table lowercaseLetter),
   ("lm", table modifierLetter), ("modifierletter", table modifierLetter),
   ("lo", table otherLetter), ("otherletter", table otherLetter),
   ("lt", table titlecaseLetter), ("titlecaseletter", table titlecaseLetter),
   ("lu", table uppercaseLetter), ("uppercaseletter", table uppercaseLetter),
   ("m", mark), ("mark", mark), ("combiningmark", mark),
   ("mc", table spacingMark), ("spacingmark", table spacingMark),
   ("me", table enclosingMark), ("enclosingmark", table enclosingMark),
   ("mn", table nonspacingMark), ("nonspacingmark", table nonspacingMark),
   ("n", number), ("number", number),
   ("nd", table decimalNumber), ("decimalnumber", table decimalNumber),
   ("digit", table decimalNumber),
   ("nl", table letterNumber), ("letternumber", table letterNumber),
   ("no", table otherNumber), ("othernumber", table otherNumber),
   ("p", punctuation), ("punctuation", punctuation), ("punct", punctuation),
   ("pc", table connectorPunctuation), ("connectorpunctuation", table connectorPunctuation),
   ("pd", table dashPunctuation), ("dashpunctuation", table dashPunctuation),
   ("pe", table closePunctuation), ("closepunctuation", table closePunctuation),
   ("pf", table finalPunctuation), ("finalpunctuation", table finalPunctuation),
   ("pi", table initialPunctuation), ("initialpunctuation", table initialPunctuation),
   ("po", table otherPunctuation), ("otherpunctuation", table otherPunctuation),
   ("ps", table openPunctuation), ("openpunctuation", table openPunctuation),
   ("s", symbol), ("symbol", symbol),
   ("sc", table currencySymbol), ("currencysymbol", table currencySymbol),
   ("sk", table modifierSymbol), ("modifiersymbol", table modifierSymbol),
   ("sm", table mathSymbol), ("mathsymbol", table mathSymbol),
   ("so", table otherSymbol), ("othersymbol", table otherSymbol),
   ("z", separator), ("separator", separator),
   ("zl", table lineSeparator), ("lineseparator", table lineSeparator),
   ("zp", table paragraphSeparator), ("paragraphseparator", table paragraphSeparator),
   ("zs", table spaceSeparator), ("spaceseparator", table spaceSeparator)]

/-! ### Properties that hold or do not -/

/-- The alphabetic characters. -/
def alphabetic : CharSet :=
  unions [letter, table letterNumber, table otherAlphabetic]

/-- The lower-case characters. -/
def lowercase : CharSet :=
  tables [lowercaseLetter, otherLowercase]

/-- The upper-case characters. -/
def uppercase : CharSet :=
  tables [uppercaseLetter, otherUppercase]

/-- The characters that have case. -/
def cased : CharSet :=
  unions [lowercase, uppercase, table titlecaseLetter]

/-- The characters that case-mapping looks through. -/
def caseIgnorable : CharSet :=
  tables [nonspacingMark, enclosingMark, format, modifierLetter, modifierSymbol,
    otherCaseIgnorable]

/-- The characters that extend a grapheme. -/
def graphemeExtend : CharSet :=
  tables [nonspacingMark, enclosingMark, otherGraphemeExtend]

/-- The characters that a grapheme can be built on. -/
def graphemeBase : CharSet :=
  compl (unions [tables [control, format, privateUse, lineSeparator, paragraphSeparator],
    unassigned, graphemeExtend])

/-- The characters that start an identifier. -/
def idStart : CharSet :=
  diff (unions [letter, tables [letterNumber, otherIdStart]]) (table notIdStart)

/-- The characters that an identifier goes on with. -/
def idContinue : CharSet :=
  union idStart
    (tables [nonspacingMark, spacingMark, decimalNumber, connectorPunctuation, otherIdContinue])

/-- Properties under their names. -/
def binaryProperties : List (String × CharSet) :=
  [("ahex", table asciiHexDigit), ("asciihexdigit", table asciiHexDigit),
   ("alpha", alphabetic), ("alphabetic", alphabetic),
   ("bidic", table bidiControl), ("bidicontrol", table bidiControl),
   ("bidim", table bidiMirrored), ("bidimirrored", table bidiMirrored),
   ("ci", caseIgnorable), ("caseignorable", caseIgnorable), ("cased", cased),
   ("cwcf", table changesWhenCasefolded), ("changeswhencasefolded", table changesWhenCasefolded),
   ("cwcm", tables [changesWhenLowercased, changesWhenTitlecased, changesWhenUppercased]),
   ("changeswhencasemapped",
     tables [changesWhenLowercased, changesWhenTitlecased, changesWhenUppercased]),
   ("cwl", table changesWhenLowercased), ("changeswhenlowercased", table changesWhenLowercased),
   ("cwt", table changesWhenTitlecased), ("changeswhentitlecased", table changesWhenTitlecased),
   ("cwu", table changesWhenUppercased), ("changeswhenuppercased", table changesWhenUppercased),
   ("dash", table dash),
   ("di", table defaultIgnorableCodePoint),
   ("defaultignorablecodepoint", table defaultIgnorableCodePoint),
   ("dep", table BinaryProperty.deprecated), ("deprecated", table BinaryProperty.deprecated),
   ("dia", table diacritic), ("diacritic", table diacritic),
   ("emoji", table emoji),
   ("ecomp", table emojiComponent), ("emojicomponent", table emojiComponent),
   ("emod", table emojiModifier), ("emojimodifier", table emojiModifier),
   ("ebase", table emojiModifierBase), ("emojimodifierbase", table emojiModifierBase),
   ("epres", table emojiPresentation), ("emojipresentation", table emojiPresentation),
   ("extpict", table extendedPictographic), ("extendedpictographic", table extendedPictographic),
   ("ext", table extender), ("extender", table extender),
   ("grbase", graphemeBase), ("graphemebase", graphemeBase),
   ("grext", graphemeExtend), ("graphemeextend", graphemeExtend),
   ("hex", table hexDigit), ("hexdigit", table hexDigit),
   ("idsb", table idsBinaryOperator), ("idsbinaryoperator", table idsBinaryOperator),
   ("idst", table idsTrinaryOperator), ("idstrinaryoperator", table idsTrinaryOperator),
   ("idc", idContinue), ("idcontinue", idContinue), ("ids", idStart), ("idstart", idStart),
   ("ideo", table ideographic), ("ideographic", table ideographic),
   ("joinc", table joinControl), ("joincontrol", table joinControl),
   ("loe", table logicalOrderException), ("logicalorderexception", table logicalOrderException),
   ("lower", lowercase), ("lowercase", lowercase),
   ("math", tables [mathSymbol, otherMath]),
   ("nchar", table noncharacterCodePoint), ("noncharactercodepoint", table noncharacterCodePoint),
   ("patsyn", table patternSyntax), ("patternsyntax", table patternSyntax),
   ("patws", table patternWhiteSpace), ("patternwhitespace", table patternWhiteSpace),
   ("qmark", table quotationMark), ("quotationmark", table quotationMark),
   ("radical", table radical),
   ("ri", table regionalIndicator), ("regionalindicator", table regionalIndicator),
   ("sterm", table sentenceTerminal), ("sentenceterminal", table sentenceTerminal),
   ("sd", table softDotted), ("softdotted", table softDotted),
   ("term", table terminalPunctuation), ("terminalpunctuation", table terminalPunctuation),
   ("uideo", table unifiedIdeograph), ("unifiedideograph", table unifiedIdeograph),
   ("upper", uppercase), ("uppercase", uppercase),
   ("vs", table variationSelector), ("variationselector", table variationSelector),
   ("wspace", table whiteSpace), ("whitespace", table whiteSpace), ("space", table whiteSpace),
   ("xidc", diff idContinue (table notXidContinue)),
   ("xidcontinue", diff idContinue (table notXidContinue)),
   ("xids", diff idStart (table notXidStart)), ("xidstart", diff idStart (table notXidStart))]

/-! ### Looking up a name -/

/-- A name without what does not matter in it: a leading "is" in any case, spaces,
hyphens, underscores, characters outside ASCII, and the difference of case. The name
"isc" is kept, lest it become the name of a category. -/
def looseName (name : List Char) : String :=
  let stripped :=
    match name with
    | 'i' :: 's' :: rest | 'I' :: 'S' :: rest | 'i' :: 'S' :: rest | 'I' :: 's' :: rest => rest
    | _ => name
  let kept := stripped.filter fun c =>
    c.toNat < 0x80 && c != ' ' && c != '_' && c != '-'
  let key := String.ofList (kept.map Char.toLower)
  if key == "c" && stripped.length < name.length then "isc" else key

/-- The set listed under a name. -/
def find? (list : List (String × CharSet)) (key : String) : Option CharSet :=
  (list.find? fun entry => entry.1 == key).map (·.2)

/-- The characters of a script. -/
def script? (key : String) : Option CharSet :=
  (Script.named.find? fun entry => entry.1 == key).map fun entry => table entry.2

/-- The characters in use with a script. -/
def scriptExtensions? (key : String) : Option CharSet :=
  (script? key).map fun own =>
    match ScriptExtensions.added.find? fun entry => entry.1 == key with
    | some entry => union (diff own (table ScriptExtensions.removed)) (table entry.2)
    | none => diff own (table ScriptExtensions.removed)

end Property

open Property

/-- The set that a single name stands for: a property, a general category or a script,
in this order. The names "cf", "sc" and "lc" are categories, though properties are
abbreviated so as well. -/
def named? (name : List Char) : Option CharSet :=
  let key := looseName name
  find? binaryProperties key <|> find? generalCategories key <|> script? key

/-- The set that a property and a value of it stand for. -/
def valued? (property value : List Char) : Option CharSet :=
  let key := looseName value
  match looseName property with
  | "gc" | "generalcategory" => find? generalCategories key
  | "sc" | "script" => script? key
  | "scx" | "scriptextensions" => scriptExtensions? key
  | _ => none

/-- The text before and after the first occurrence of a mark. -/
def splitAtMark? (mark : List Char) : List Char → Option (List Char × List Char)
  | [] => none
  | c :: t =>
    if mark.isPrefixOf (c :: t) then some ([], (c :: t).drop mark.length)
    else (splitAtMark? mark t).map fun r => (c :: r.1, r.2)

/-- The set that a name stands for as it is written: a single name, or a property and a value.
The signs for "has the value" and "has not" are not told apart. -/
def property? (name : List Char) : Option CharSet :=
  match splitAtMark? ['!', '='] name <|> splitAtMark? [':'] name <|> splitAtMark? ['='] name with
  | some (property, value) => valued? property value
  | none => named? name

/-- The decimal digits. -/
def digits : CharSet :=
  .table GeneralCategory.decimalNumber

/-- White space as a set. -/
def spaces : CharSet :=
  .table whiteSpace

/-- The characters that words are made of. -/
def wordCharacters : CharSet :=
  .unions [alphabetic, mark, digits, .table GeneralCategory.connectorPunctuation,
    .table BinaryProperty.joinControl]

end UriRouting.Unicode
