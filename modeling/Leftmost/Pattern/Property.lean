import Leftmost.Unicode.Word
import Leftmost.Unicode.Identifier
import Leftmost.Unicode.Segment
import Leftmost.Unicode.Age
import Leftmost.Unicode.Blank

/-!
# Leftmost.Pattern.Property

Sets of characters by name: the properties that `\p` takes, the classes that stand between `[:` and
`:]`, and the three classes with a letter of their own.

Names of properties are compared loosely: case, spaces, hyphens, underscores and a leading "is" make
no difference.
-/

namespace Leftmost.Property

open Unicode

/-- The form in which names are compared. What would be left of "isc" but for its last letter is a
name of its own. -/
def normalize (name : List Char) : List Char :=
  let (marked, rest) :=
    match name with
    | a :: b :: rest => if a.toLower = 'i' ∧ b.toLower = 's' then (true, rest) else (false, name)
    | _ => (false, name)
  let plain := (rest.filter fun c => c.toNat < 0x80 && c != ' ' && c != '_' && c != '-').map Char.toLower
  if marked ∧ plain = ['c'] then ['i', 's', 'c'] else plain

/-- The set of a name in a table. -/
def find? (table : Named) (name : String) : Option RangeSet :=
  (table.find? (·.1.contains name)).map (·.2.set)

/-! ## Properties that a character has or has not -/

/-- What is said about the use of characters. -/
def binaryUse : Named := [
  (["asciihexdigit", "ahex"], asciiHexDigit),
  (["alphabetic", "alpha"], alphabetic),
  (["bidicontrol", "bidic"], bidiControl),
  (["caseignorable", "ci"], caseIgnorable),
  (["cased"], cased),
  (["changeswhencasefolded", "cwcf"], changesWhenCasefolded),
  (["changeswhencasemapped", "cwcm"], changesWhenCasemapped),
  (["changeswhenlowercased", "cwl"], changesWhenLowercased),
  (["changeswhentitlecased", "cwt"], changesWhenTitlecased),
  (["changeswhenuppercased", "cwu"], changesWhenUppercased),
  (["dash"], dash),
  (["defaultignorablecodepoint", "di"], ignorable),
  (["deprecated", "dep"], deprecated),
  (["diacritic", "dia"], diacritic),
  (["emoji"], emoji),
  (["emojicomponent", "ecomp"], emojiComponent),
  (["emojimodifier", "emod"], emojiModifier),
  (["emojimodifierbase", "ebase"], emojiModifierBase),
  (["emojipresentation", "epres"], emojiPresentation),
  (["extendedpictographic", "extpict"], pictographic),
  (["extender", "ext"], extender),
  (["graphemebase", "grbase"], graphemeBase),
  (["graphemeextend", "grext"], graphemeExtend),
  (["graphemelink", "grlink"], graphemeLink),
  (["hexdigit", "hex"], hexDigit),
  (["hyphen"], hyphen),
  (["idsbinaryoperator", "idsb"], composesTwo),
  (["idstrinaryoperator", "idst"], composesThree),
  (["idsunaryoperator", "idsu"], composesOne),
  (["idcompatmathcontinue"], mathContinue),
  (["idcompatmathstart"], mathStart),
  (["idcontinue", "idc"], idContinue),
  (["idstart", "ids"], idStart),
  (["ideographic", "ideo"], ideographic),
  (["joincontrol", "joinc"], joinControl),
  (["logicalorderexception", "loe"], reordered),
  (["lowercase", "lower"], lowercase),
  (["math"], math),
  (["modifiercombiningmark", "mcm"], modifierMark),
  (["noncharactercodepoint", "nchar"], noncharacter),
  (["patternsyntax", "patsyn"], patternSyntax),
  (["patternwhitespace", "patws"], patternBlank),
  (["prependedconcatenationmark", "pcm"], prependedMark),
  (["quotationmark", "qmark"], quotationMark),
  (["radical"], radical),
  (["regionalindicator", "ri"], regionalIndicator),
  (["sentenceterminal", "sterm"], sentenceTerminal),
  (["softdotted", "sd"], softDotted),
  (["terminalpunctuation", "term"], terminalPunctuation),
  (["unifiedideograph", "uideo"], unifiedIdeograph),
  (["uppercase", "upper"], uppercase),
  (["variationselector", "vs"], variationSelector),
  (["whitespace", "wspace", "space"], .ranges blank.toList),
  (["xidcontinue", "xidc"], xidContinue),
  (["xidstart", "xids"], xidStart)]

/-- What is only listed to define others of these properties. -/
def binaryRest : Named := [
  (["otheralphabetic", "oalpha"], otherAlphabetic),
  (["otherdefaultignorablecodepoint", "odi"], otherIgnorable),
  (["othergraphemeextend", "ogrext"], otherGraphemeExtend),
  (["otheridcontinue", "oidc"], otherIdContinue),
  (["otheridstart", "oids"], otherIdStart),
  (["otherlowercase", "olower"], otherLowercase),
  (["othermath", "omath"], otherMath),
  (["otheruppercase", "oupper"], otherUppercase)]

def binary : Named := binaryUse ++ binaryRest

/-! ## Properties with values -/

/-- General categories, and the unions of those of a kind. -/
def categories : Named := [
  (["any"], .ranges RangeSet.scalars.toList),
  (["ascii"], .ranges [(0, 0x7f)]),
  (["assigned"], .ranges assigned.toList),
  (["c", "other"], .categories [.cc, .cf, .cn, .co]),
  (["cc", "control", "cntrl"], .categories [.cc]),
  (["cf", "format"], .categories [.cf]),
  (["cn", "unassigned"], .categories [.cn]),
  (["co", "privateuse"], .categories [.co]),
  (["l", "letter"], .categories [.lu, .ll, .lt, .lm, .lo]),
  (["lc", "casedletter"], .categories [.lu, .ll, .lt]),
  (["ll", "lowercaseletter"], .categories [.ll]),
  (["lm", "modifierletter"], .categories [.lm]),
  (["lo", "otherletter"], .categories [.lo]),
  (["lt", "titlecaseletter"], .categories [.lt]),
  (["lu", "uppercaseletter"], .categories [.lu]),
  (["m", "mark", "combiningmark"], .categories [.mn, .mc, .me]),
  (["mc", "spacingmark"], .categories [.mc]),
  (["me", "enclosingmark"], .categories [.me]),
  (["mn", "nonspacingmark"], .categories [.mn]),
  (["n", "number"], number),
  (["nd", "decimalnumber", "digit"], .categories [.nd]),
  (["nl", "letternumber"], .categories [.nl]),
  (["no", "othernumber"], .categories [.no]),
  (["p", "punctuation", "punct"], .categories [.pc, .pd, .ps, .pe, .pi, .pf, .po]),
  (["pc", "connectorpunctuation"], .categories [.pc]),
  (["pd", "dashpunctuation"], .categories [.pd]),
  (["pe", "closepunctuation"], .categories [.pe]),
  (["pf", "finalpunctuation"], .categories [.pf]),
  (["pi", "initialpunctuation"], .categories [.pi]),
  (["po", "otherpunctuation"], .categories [.po]),
  (["ps", "openpunctuation"], .categories [.ps]),
  (["s", "symbol"], .categories [.sm, .sc, .sk, .so]),
  (["sc", "currencysymbol"], .categories [.sc]),
  (["sk", "modifiersymbol"], .categories [.sk]),
  (["sm", "mathsymbol"], .categories [.sm]),
  (["so", "othersymbol"], .categories [.so]),
  (["z", "separator"], .categories [.zs, .zl, .zp]),
  (["zl", "lineseparator"], .categories [.zl]),
  (["zp", "paragraphseparator"], .categories [.zp]),
  (["zs", "spaceseparator"], .categories [.zs])]

/-- The set of a property's name. -/
def ofName? (name : List Char) : Option RangeSet :=
  let name := String.ofList (normalize name)
  (find? binary name).or ((find? categories name).or (scriptSet? name))

/-- The set of the characters for which a property has a value. -/
def ofValue? (property value : List Char) : Option RangeSet :=
  let value := String.ofList (normalize value)
  match String.ofList (normalize property) with
  | "gc" | "generalcategory" => find? categories value
  | "sc" | "script" => scriptSet? value
  | "scx" | "scriptextensions" => usedInScript? value
  | "age" => assignedSince? value
  | "gcb" | "graphemeclusterbreak" => find? clusterRoles value
  | "wb" | "wordbreak" => find? wordRoles value
  | "sb" | "sentencebreak" => find? sentenceRoles value
  | _ => none

/-! ## ASCII classes -/

/-- The class of a name between `[:` and `:]`. -/
def ascii? (name : String) : Option RangeSet :=
  match name with
  | "alnum" => some (.ofList [(0x30, 0x39), (0x41, 0x5a), (0x61, 0x7a)])
  | "alpha" => some (.ofList [(0x41, 0x5a), (0x61, 0x7a)])
  | "ascii" => some (.range 0 0x7f)
  | "blank" => some (.ofList [(0x09, 0x09), (0x20, 0x20)])
  | "cntrl" => some (.ofList [(0, 0x1f), (0x7f, 0x7f)])
  | "digit" => some (.range 0x30 0x39)
  | "graph" => some (.range 0x21 0x7e)
  | "lower" => some (.range 0x61 0x7a)
  | "print" => some (.range 0x20 0x7e)
  | "punct" => some (.ofList [(0x21, 0x2f), (0x3a, 0x40), (0x5b, 0x60), (0x7b, 0x7e)])
  | "space" => some (.ofList [(0x09, 0x0d), (0x20, 0x20)])
  | "upper" => some (.range 0x41 0x5a)
  | "word" => some Unicode.asciiWord
  | "xdigit" => some (.ofList [(0x30, 0x39), (0x41, 0x46), (0x61, 0x66)])
  | _ => none

/-! ## Classes with a letter -/

/-- The class of the letters `d`, `s` and `w`. -/
def ofLetter? (unicode : Bool) (letter : Char) : Option RangeSet :=
  match letter, unicode with
  | 'd', true => some Unicode.decimal
  | 's', true => some Unicode.blank
  | 'w', true => some Unicode.word
  | 'd', false => ascii? "digit"
  | 's', false => ascii? "space"
  | 'w', false => ascii? "word"
  | _, _ => none

end Leftmost.Property
