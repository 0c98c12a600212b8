import GrammarBrew.Property.Age
import GrammarBrew.Property.Break
import GrammarBrew.Property.ScriptExtension

/-!
Properties of characters by name: general categories and their groups, scripts, yes-or-no
properties, and properties with values. Names are spelled loosely: case, blanks, low lines and
dashes do not count, nor does `is` at the front. All follow Unicode 16.
-/

set_option autoImplicit false
set_option relaxedAutoImplicit false

namespace GrammarBrew.Pattern

open CharSet Property

/-- A name in its plain spelling. The short name `isc` is one of its own. -/
def plainName (name : Text) : Text :=
  let plain (text : Text) : Text :=
    (text.filter fun c => c != ' ' && c != '_' && c != '-' && decide (c ≤ '\x7f')).map Char.toLower
  match name with
  | i :: s :: rest =>
    if i.toLower = 'i' ∧ s.toLower = 's' then
      if plain rest = ['c'] then ['i', 's', 'c'] else plain rest
    else plain name
  | _ => plain name

/-- The general categories and their groups: their names, and their characters. -/
def categories : List (List String × CharSet) := [
  (["l", "letter"], letters),
  (["lc", "casedletter"], casedLetters),
  (["lu", "uppercaseletter"], property uppercaseRuns),
  (["ll", "lowercaseletter"], property lowercaseRuns),
  (["lt", "titlecaseletter"], property titlecaseRuns),
  (["lm", "modifierletter"], property modifierLetterRuns),
  (["lo", "otherletter"], property otherLetterRuns),
  (["m", "mark", "combiningmark"], marks),
  (["mn", "nonspacingmark"], property nonspacingRuns),
  (["mc", "spacingmark"], property spacingMarkRuns),
  (["me", "enclosingmark"], property enclosingRuns),
  (["n", "number"], numbers),
  (["nd", "decimalnumber", "digit"], digits),
  (["nl", "letternumber"], property letterNumberRuns),
  (["no", "othernumber"], property otherNumberRuns),
  (["p", "punctuation", "punct"], punctuation),
  (["pc", "connectorpunctuation"], property connectorRuns),
  (["pd", "dashpunctuation"], property dashPunctuationRuns),
  (["ps", "openpunctuation"], property openRuns),
  (["pe", "closepunctuation"], property closeRuns),
  (["pi", "initialpunctuation"], property initialQuoteRuns),
  (["pf", "finalpunctuation"], property finalQuoteRuns),
  (["po", "otherpunctuation"], property otherPunctuationRuns),
  (["s", "symbol"], symbols),
  (["sm", "mathsymbol"], property mathSymbolRuns),
  (["sc", "currencysymbol"], property currencyRuns),
  (["sk", "modifiersymbol"], property modifierSymbolRuns),
  (["so", "othersymbol"], property otherSymbolRuns),
  (["z", "separator"], separators),
  (["zs", "spaceseparator"], property spaceRuns),
  (["zl", "lineseparator"], property lineSeparatorRuns),
  (["zp", "paragraphseparator"], property paragraphSeparatorRuns),
  (["c", "other"], compl graphic),
  (["cc", "control", "cntrl"], property controlRuns),
  (["cf", "format"], property formatRuns),
  (["co", "privateuse"], property privateRuns),
  (["cn", "unassigned"], unassigned),
  (["any"], compl nothing),
  (["assigned"], compl unassigned),
  (["ascii"], ascii)
]

/-- Yes-or-no properties: their names, and the characters that have them. -/
def binaryProperties : List (List String × CharSet) := [
  (["asciihexdigit", "ahex"], asciiHexDigits),
  (["alphabetic", "alpha"], alphabetic),
  (["bidicontrol", "bidic"], property directionControlRuns),
  (["bidimirrored", "bidim"], property mirroredRuns),
  (["caseignorable", "ci"], caseIgnorable),
  (["cased"], cased),
  (["changeswhencasefolded", "cwcf"], changedByFolding),
  (["changeswhencasemapped", "cwcm"], changedByMapping),
  (["changeswhenlowercased", "cwl"], changedByLower),
  (["changeswhentitlecased", "cwt"], changedByTitle),
  (["changeswhenuppercased", "cwu"], changedByUpper),
  (["dash"], property dashRuns),
  (["defaultignorablecodepoint", "di"], ignorable),
  (["deprecated", "dep"], property deprecatedRuns),
  (["diacritic", "dia"], property diacriticRuns),
  (["emoji"], property emojiRuns),
  (["emojicomponent", "ecomp"], property emojiComponentRuns),
  (["emojimodifier", "emod"], property emojiModifierRuns),
  (["emojimodifierbase", "ebase"], property emojiBaseRuns),
  (["emojipresentation", "epres"], property emojiPresentationRuns),
  (["extendedpictographic", "extpict"], property pictographRuns),
  (["extender", "ext"], property extenderRuns),
  (["graphemebase", "grbase"], base),
  (["graphemeextend", "grext"], extending),
  (["graphemelink", "grlink"], property graphemeLinkRuns),
  (["hexdigit", "hex"], hexDigits),
  (["hyphen"], property hyphenRuns),
  (["idcompatmathcontinue"], property mathContinueRuns),
  (["idcompatmathstart"], property mathStartRuns),
  (["idcontinue", "idc"], identifierContinue),
  (["idstart", "ids"], identifierStart),
  (["idsbinaryoperator", "idsb"], property pairOperatorRuns),
  (["idstrinaryoperator", "idst"], property tripleOperatorRuns),
  (["idsunaryoperator", "idsu"], property singleOperatorRuns),
  (["ideographic", "ideo"], property ideographRuns),
  (["joincontrol", "joinc"], joiners),
  (["logicalorderexception", "loe"], property displayOrderRuns),
  (["lowercase", "lower"], lowercase),
  (["math"], mathematical),
  (["modifiercombiningmark", "mcm"], property modifierMarkRuns),
  (["noncharactercodepoint", "nchar"], property noncharacterRuns),
  (["otheralphabetic", "oalpha"], property otherAlphabeticRuns),
  (["otherdefaultignorablecodepoint", "odi"], property otherIgnorableRuns),
  (["othergraphemeextend", "ogrext"], property otherExtendingRuns),
  (["otheridcontinue", "oidc"], property otherContinueRuns),
  (["otheridstart", "oids"], property otherStartRuns),
  (["otherlowercase", "olower"], property otherLowercaseRuns),
  (["othermath", "omath"], property otherMathRuns),
  (["otheruppercase", "oupper"], property otherUppercaseRuns),
  (["patternsyntax", "patsyn"], property patternSyntaxRuns),
  (["patternwhitespace", "patws"], property patternBlankRuns),
  (["prependedconcatenationmark", "pcm"], property prependedMarkRuns),
  (["quotationmark", "qmark"], property quotationMarkRuns),
  (["radical"], property radicalRuns),
  (["regionalindicator", "ri"], property regionalRuns),
  (["sentenceterminal", "sterm"], property sentenceTerminalRuns),
  (["softdotted", "sd"], property softDottedRuns),
  (["terminalpunctuation", "term"], property terminalRuns),
  (["unifiedideograph", "uideo"], property unifiedIdeographRuns),
  (["uppercase", "upper"], uppercase),
  (["variationselector", "vs"], property variationSelectorRuns),
  (["whitespace", "wspace", "space"], blanks),
  (["xidcontinue", "xidc"], stableContinue),
  (["xidstart", "xids"], stableStart)
]

def named? (known : List (List String × CharSet)) (name : Text) : Option CharSet :=
  (known.find? fun entry => entry.1.any fun other => other.toList == name).map Prod.snd

/-- The code of a script for the two codes that were given a second time. -/
def currentCode (name : Text) : Text :=
  if name = "qaac".toList then "copt".toList else if name = "qaai".toList then "zinh".toList
    else name

def script? (name : Text) : Option CharSet := (scriptRuns? (currentCode name)).map property

def usedWith? (name : Text) : Option CharSet :=
  let script := currentCode name
  (scripts.find? fun entry => entry.1.toList == script || entry.2.1.toList == script).map
    fun entry =>
      let shared := sharedRuns.filter fun row => row.1.contains entry.1
      union (diff (property entry.2.2) (anyOf (sharedRuns.map Prod.snd)))
        (anyOf (shared.map Prod.snd))

def versionNames (major minor : Nat) : List Text :=
  [Text.ofNat major ++ '.' :: Text.ofNat minor, 'v' :: Text.ofNat major ++ Text.ofNat minor]

/-- The characters that were there by a version of Unicode. -/
def assignedBy? (name : Text) : Option CharSet :=
  let later := ages.dropWhile fun age => !(versionNames age.1 age.2.1).contains name
  match later with
  | [] => none
  | _ :: after => some (anyOf ((ages.take (ages.length - after.length)).map fun age => age.2.2))

def byName? (name : Text) : Option CharSet :=
  named? binaryProperties name <|> named? categories name <|> script? name

def isOneOf (names : List String) (name : Text) : Bool :=
  names.any fun other => other.toList == name

def byValue? (key value : Text) : Option CharSet :=
  if isOneOf ["gc", "generalcategory"] key then named? categories value
  else if isOneOf ["sc", "script"] key then script? value
  else if isOneOf ["scx", "scriptextensions"] key then usedWith? value
  else if isOneOf ["age"] key then assignedBy? value
  else if isOneOf ["gcb", "graphemeclusterbreak"] key then named? clusterBreaks value
  else if isOneOf ["wb", "wordbreak"] key then named? wordBreaks value
  else if isOneOf ["sb", "sentencebreak"] key then named? sentenceBreaks value
  else none

/-- What the text in the braces of a property escape stands for: whether those characters are left
out, and which they are. -/
def property? (text : Text) : Option (Bool × CharSet) :=
  match Text.cut ['!', '='] text with
  | some (key, value) =>
    (byValue? (plainName key) (plainName value)).map fun set => (true, set)
  | none =>
    (match Text.cut [':'] text <|> Text.cut ['='] text with
    | some (key, value) => byValue? (plainName key) (plainName value)
    | none => byName? (plainName text)).map fun set => (false, set)

example : (property? "Lu".toList).any (fun found => found.2.contains 'É') = true := by
  decide +kernel
example : (property? "script=Greek".toList).any (fun found => found.2.contains 'β') = true := by
  decide +kernel
example : (property? "age=V1_1".toList).any (fun found => found.2.contains '€') = false := by
  decide +kernel

end GrammarBrew.Pattern
