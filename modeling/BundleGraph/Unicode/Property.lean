import BundleGraph.Pattern.CharClass
import BundleGraph.Text.Lowercase
import BundleGraph.Unicode.Binary
import BundleGraph.Unicode.Category
import BundleGraph.Unicode.Script

/-!
# Properties by name

A class of characters is asked for by the name of a general category, a script or a binary
property.  Case, blanks, dashes, low lines and a leading `is` do not count in a name.

## Main definitions

* `normalName` — a name with what does not count taken away.
* `byName?` — the class of a name.
* `byValue?` — the class of a property and its value.
-/

namespace BundleGraph.Unicode

open Text

/-! ## Names -/

/-- The characters of a name that count, in small letters. -/
def significant (cs : List Char) : List Char :=
  (cs.filter fun c => c.toNat < 0x80 && c != ' ' && c != '_' && c != '-').map Char.toLower

/-- A name with what does not count taken away.  A leading `is` counts only in `isc`. -/
def normalName (name : List Char) : String :=
  match name with
  | a :: b :: r =>
    if a.toLower = 'i' ∧ b.toLower = 's' then
      match significant r with
      | ['c'] => "isc"
      | cs => String.ofList cs
    else String.ofList (significant name)
  | cs => String.ofList (significant cs)

/-- The entry of a list whose names have the given one. -/
def named? (name : String) (entries : List (List String × CharClass)) : Option CharClass :=
  (entries.find? fun e => e.1.contains name).map (·.2)

/-! ## General categories -/

def casedLetter : CharClass :=
  .ofTables [uppercaseLetter, lowercaseLetter, titlecaseLetter]

def letter : CharClass :=
  .ofTables [lowercaseLetter, uppercaseLetter, otherLetter, modifierLetter, titlecaseLetter]

def mark : CharClass :=
  .ofTables [nonspacingMark, spacingMark, enclosingMark]

def number : CharClass :=
  .ofTables [decimalNumber, letterNumber, otherNumber]

def punctuation : CharClass :=
  .ofTables [connectorPunctuation, dashPunctuation, openPunctuation, closePunctuation,
    initialPunctuation, finalPunctuation, otherPunctuation]

def symbol : CharClass :=
  .ofTables [mathSymbol, currencySymbol, modifierSymbol, otherSymbol]

def separator : CharClass :=
  .ofTables [spaceSeparator, lineSeparator, paragraphSeparator]

/-- Characters with a category. -/
def assigned : CharClass :=
  .unionOf [letter, mark, number, punctuation, symbol, separator,
    .ofTables [control, format, privateUse]]

/-- Characters without a category. -/
def unassigned : CharClass :=
  .complement assigned

/-- The general categories and their groups, by the names that count. -/
def categories : List (List String × CharClass) := [
  (["any"], .all),
  (["assigned"], assigned),
  (["ascii"], .ascii),
  (["l", "letter"], letter),
  (["lc", "casedletter"], casedLetter),
  (["lu", "uppercaseletter"], .table uppercaseLetter),
  (["ll", "lowercaseletter"], .table lowercaseLetter),
  (["lt", "titlecaseletter"], .table titlecaseLetter),
  (["lm", "modifierletter"], .table modifierLetter),
  (["lo", "otherletter"], .table otherLetter),
  (["m", "mark", "combiningmark"], mark),
  (["mn", "nonspacingmark"], .table nonspacingMark),
  (["mc", "spacingmark"], .table spacingMark),
  (["me", "enclosingmark"], .table enclosingMark),
  (["n", "number"], number),
  (["nd", "decimalnumber", "digit"], .table decimalNumber),
  (["nl", "letternumber"], .table letterNumber),
  (["no", "othernumber"], .table otherNumber),
  (["p", "punctuation", "punct"], punctuation),
  (["pc", "connectorpunctuation"], .table connectorPunctuation),
  (["pd", "dashpunctuation"], .table dashPunctuation),
  (["ps", "openpunctuation"], .table openPunctuation),
  (["pe", "closepunctuation"], .table closePunctuation),
  (["pi", "initialpunctuation"], .table initialPunctuation),
  (["pf", "finalpunctuation"], .table finalPunctuation),
  (["po", "otherpunctuation"], .table otherPunctuation),
  (["s", "symbol"], symbol),
  (["sm", "mathsymbol"], .table mathSymbol),
  (["sc", "currencysymbol"], .table currencySymbol),
  (["sk", "modifiersymbol"], .table modifierSymbol),
  (["so", "othersymbol"], .table otherSymbol),
  (["z", "separator"], separator),
  (["zs", "spaceseparator"], .table spaceSeparator),
  (["zl", "lineseparator"], .table lineSeparator),
  (["zp", "paragraphseparator"], .table paragraphSeparator),
  (["c", "other"], .union unassigned (.ofTables [control, format, privateUse])),
  (["cc", "control", "cntrl"], .table control),
  (["cf", "format"], .table format),
  (["cs", "surrogate"], .empty),
  (["co", "privateuse"], .table privateUse),
  (["cn", "unassigned"], unassigned)]

/-! ## Binary properties -/

/-- Letters and what is used like them. -/
def alphabetic : CharClass :=
  .union letter (.ofTables [letterNumber, moreAlphabetic])

/-- Characters that may start a name. -/
def idStart : CharClass :=
  .less (.union letter (.ofTables [letterNumber, moreIdStart])) (.table patternSyntax)

/-- Characters that may stand in a name. -/
def idContinue : CharClass :=
  .unionOf [idStart, .ofTables [nonspacingMark, spacingMark, decimalNumber, connectorPunctuation,
    moreIdContinue]]

/-- Characters that extend the grapheme before them. -/
def graphemeExtend : CharClass :=
  .ofTables [nonspacingMark, enclosingMark, moreGraphemeExtend]

/-- Characters that stand for themselves in a grapheme. -/
def graphemeBase : CharClass :=
  .less (.less assigned graphemeExtend)
    (.ofTables [control, format, privateUse, lineSeparator, paragraphSeparator])

/-- Blanks. -/
def whiteSpace : CharClass :=
  .unionOf [.range 9 13, .range 0x20 0x20, .range 0x85 0x85, .table spaceSeparator,
    .table lineSeparator, .table paragraphSeparator]

/-- The binary properties, by the names that count. -/
def binaryProperties : List (List String × CharClass) := [
  (["alpha", "alphabetic"], alphabetic),
  (["lower", "lowercase"], .ofTables [lowercaseLetter, moreLowercase]),
  (["upper", "uppercase"], .ofTables [uppercaseLetter, moreUppercase]),
  (["wspace", "whitespace", "space"], whiteSpace),
  (["ids", "idstart"], idStart),
  (["idc", "idcontinue"], idContinue),
  (["xids", "xidstart"], .less idStart (.table notXidStart)),
  (["xidc", "xidcontinue"], .less idContinue (.table notXidContinue)),
  (["grext", "graphemeextend"], graphemeExtend),
  (["grbase", "graphemebase"], graphemeBase),
  (["cased"], .table cased),
  (["ci", "caseignorable"], .table caseIgnorable),
  (["cwcf", "changeswhencasefolded"], .table changesWhenCasefolded),
  (["cwcm", "changeswhencasemapped"], .table changesWhenCasemapped),
  (["cwl", "changeswhenlowercased"], .table changesWhenLowercased),
  (["cwt", "changeswhentitlecased"], .table changesWhenTitlecased),
  (["cwu", "changeswhenuppercased"], .table changesWhenUppercased),
  (["dash"], .table dash),
  (["di", "defaultignorablecodepoint"], .table defaultIgnorableCodePoint),
  (["dep", "deprecated"], .table deprecated),
  (["dia", "diacritic"], .table diacritic),
  (["bidic", "bidicontrol"], .table bidiControl),
  (["bidim", "bidimirrored"], .table bidiMirrored),
  (["emoji"], .table emoji),
  (["ecomp", "emojicomponent"], .table emojiComponent),
  (["emod", "emojimodifier"], .table emojiModifier),
  (["ebase", "emojimodifierbase"], .table emojiModifierBase),
  (["epres", "emojipresentation"], .table emojiPresentation),
  (["extpict", "extendedpictographic"], .table extendedPictographic),
  (["ext", "extender"], .table extender),
  (["hex", "hexdigit"], .table hexDigit),
  (["ahex", "asciihexdigit"], .table asciiHexDigit),
  (["idsb", "idsbinaryoperator"], .table idsBinaryOperator),
  (["idst", "idstrinaryoperator"], .table idsTrinaryOperator),
  (["ideo", "ideographic"], .table ideographic),
  (["joinc", "joincontrol"], .table joinControl),
  (["loe", "logicalorderexception"], .table logicalOrderException),
  (["math"], .table math),
  (["nchar", "noncharactercodepoint"], .table noncharacterCodePoint),
  (["patsyn", "patternsyntax"], .table patternSyntax),
  (["patws", "patternwhitespace"], .table patternWhiteSpace),
  (["qmark", "quotationmark"], .table quotationMark),
  (["radical"], .table radical),
  (["ri", "regionalindicator"], .table regionalIndicator),
  (["sterm", "sentenceterminal"], .table sentenceTerminal),
  (["sd", "softdotted"], .table softDotted),
  (["term", "terminalpunctuation"], .table terminalPunctuation),
  (["uideo", "unifiedideograph"], .table unifiedIdeograph),
  (["vs", "variationselector"], .table variationSelector)]

/-! ## Scripts -/

def findScript? (name : String) : Option ScriptEntry :=
  scripts.find? fun e => e.names.contains name

/-- The characters written in a script. -/
def script? (name : String) : Option CharClass :=
  (findScript? name).map fun e => .table e.members

/-- The characters used in a script. -/
def extendedScript? (name : String) : Option CharClass :=
  (findScript? name).map fun e =>
    match scriptExtensions.find? fun x => e.names.contains x.code with
    | some x => .less (.union (.table e.members) (.table x.added)) (.table x.removed)
    | none => .table e.members

/-! ## Looking up -/

/-- The class of a name: a general category if it is `cf`, `sc` or `lc`, and else the first of a
binary property, a general category and a script that has the name. -/
def byName? (name : List Char) : Option CharClass :=
  let name := normalName name
  let general := (named? name categories).or (script? name)
  if name = "cf" ∨ name = "sc" ∨ name = "lc" then general
  else (named? name binaryProperties).or general

/-- The class of the characters for which a property has a value. -/
def byValue? (property value : List Char) : Option CharClass :=
  let value := normalName value
  match normalName property with
  | "gc" | "generalcategory" => named? value categories
  | "sc" | "script" => script? value
  | "scx" | "scriptextensions" => extendedScript? value
  | _ => none

/-! ## Classes of patterns -/

def digit : CharClass :=
  .table decimalNumber

def word : CharClass :=
  .unionOf [alphabetic, mark, .ofTables [decimalNumber, connectorPunctuation, joinControl]]

end BundleGraph.Unicode
