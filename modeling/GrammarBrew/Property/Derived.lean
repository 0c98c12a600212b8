import GrammarBrew.Property.Category
import GrammarBrew.Property.Contribution
import GrammarBrew.Property.FixedCase
import GrammarBrew.Property.Letter
import GrammarBrew.Property.Sign
import GrammarBrew.Regex.CharSet

/-!
Properties that follow from the general categories and from a few lists of other characters: the
groups of categories, case, identifiers, and what has a form of its own.
-/

set_option autoImplicit false
set_option relaxedAutoImplicit false

namespace GrammarBrew.Property

open CharSet

def casedLetters : CharSet := anyOf [uppercaseRuns, lowercaseRuns, titlecaseRuns]

def letters : CharSet := union casedLetters (anyOf [modifierLetterRuns, otherLetterRuns])

/-- The marks that take up space or none, and those that enclose. -/
def marks : CharSet := anyOf [nonspacingRuns, spacingMarkRuns, enclosingRuns]

def digits : CharSet := property decimalRuns

def numbers : CharSet := anyOf [decimalRuns, letterNumberRuns, otherNumberRuns]

def punctuation : CharSet :=
  anyOf [connectorRuns, dashPunctuationRuns, openRuns, closeRuns, initialQuoteRuns, finalQuoteRuns,
    otherPunctuationRuns]

def symbols : CharSet := anyOf [mathSymbolRuns, currencyRuns, modifierSymbolRuns, otherSymbolRuns]

def separators : CharSet := anyOf [spaceRuns, lineSeparatorRuns, paragraphSeparatorRuns]

def graphic : CharSet :=
  union (union letters (union marks numbers)) (union punctuation (union symbols separators))

def unassigned : CharSet := compl (union graphic (anyOf [controlRuns, formatRuns, privateRuns]))

def alphabetic : CharSet := union letters (anyOf [letterNumberRuns, otherAlphabeticRuns])

def lowercase : CharSet := anyOf [lowercaseRuns, otherLowercaseRuns]

def uppercase : CharSet := anyOf [uppercaseRuns, otherUppercaseRuns]

def cased : CharSet := union (union lowercase uppercase) (property titlecaseRuns)

/-- What stands within a word without ending the reach of its case. -/
def caseIgnorable : CharSet :=
  union (anyOf [nonspacingRuns, enclosingRuns, formatRuns, modifierLetterRuns, modifierSymbolRuns])
    (property [(0x0027, 0x0027), (0x002e, 0x002e), (0x003a, 0x003a), (0x00b7, 0x00b7),
      (0x0387, 0x0387), (0x055f, 0x055f), (0x05f4, 0x05f4), (0x2018, 0x2019), (0x2024, 0x2024),
      (0x2027, 0x2027), (0xfe13, 0xfe13), (0xfe52, 0xfe52), (0xfe55, 0xfe55), (0xff07, 0xff07),
      (0xff0e, 0xff0e), (0xff1a, 0xff1a)])

def changedByLower : CharSet :=
  diff (union uppercase (property titlecaseRuns)) (property fixedUppercaseRuns)

def changedByUpper : CharSet :=
  diff (union lowercase (property titlecaseRuns)) (property fixedLowercaseRuns)

/-- What title case changes: like upper case, but for letters that keep their form as a first
letter. -/
def changedByTitle : CharSet :=
  union (diff changedByUpper (union (property titlecaseRuns)
      (property [(0x10d0, 0x10fa), (0x10fd, 0x10ff)])))
    (property [(0x01c4, 0x01c4), (0x01c7, 0x01c7), (0x01ca, 0x01ca), (0x01f1, 0x01f1)])

def changedByMapping : CharSet := union changedByLower (union changedByUpper changedByTitle)

/-- The lower-case letters that case folding still changes. -/
def foldedLowercase : CharSet :=
  property [(0x00b5, 0x00b5), (0x00df, 0x00df), (0x0149, 0x0149), (0x017f, 0x017f),
    (0x0345, 0x0345), (0x03c2, 0x03c2), (0x03d0, 0x03d1), (0x03d5, 0x03d6),
    (0x03f0, 0x03f1), (0x03f5, 0x03f5), (0x0587, 0x0587), (0x13f8, 0x13fd),
    (0x1c80, 0x1c88), (0x1e9a, 0x1e9b), (0x1f80, 0x1f87), (0x1f90, 0x1f97),
    (0x1fa0, 0x1fa7), (0x1fb2, 0x1fb4), (0x1fb7, 0x1fb7), (0x1fc2, 0x1fc4),
    (0x1fc7, 0x1fc7), (0x1ff2, 0x1ff4), (0x1ff7, 0x1ff7), (0xab70, 0xabbf),
    (0xfb00, 0xfb06), (0xfb13, 0xfb17)]

/-- What case folding changes; Cherokee letters fold to upper case. -/
def changedByFolding : CharSet :=
  union (diff changedByLower (property [(0x13a0, 0x13f5)])) foldedLowercase

/-- The syntax and the blanks of patterns, which identifiers never hold. -/
def patternSigns : CharSet := anyOf [patternSyntaxRuns, patternBlankRuns]

def identifierStart : CharSet :=
  diff (union letters (anyOf [letterNumberRuns, otherStartRuns])) patternSigns

def identifierContinue : CharSet :=
  diff (union identifierStart (anyOf [nonspacingRuns, spacingMarkRuns, decimalRuns, connectorRuns,
    otherContinueRuns])) patternSigns

/-- What turns into something else than an identifier under compatibility normalization. -/
def unstableContinue : CharSet :=
  property [(0x037a, 0x037a), (0x309b, 0x309c), (0xfc5e, 0xfc63), (0xfdfa, 0xfdfb),
    (0xfe70, 0xfe70), (0xfe72, 0xfe72), (0xfe74, 0xfe74), (0xfe76, 0xfe76),
    (0xfe78, 0xfe78), (0xfe7a, 0xfe7a), (0xfe7c, 0xfe7c), (0xfe7e, 0xfe7e)]

/-- What identifiers may begin with and keep under compatibility normalization. -/
def stableStart : CharSet :=
  diff identifierStart (union unstableContinue
    (property [(0x0e33, 0x0e33), (0x0eb3, 0x0eb3), (0xff9e, 0xff9f)]))

/-- What identifiers may go on with and keep under compatibility normalization. -/
def stableContinue : CharSet := diff identifierContinue unstableContinue

def ignorable : CharSet :=
  diff (anyOf [otherIgnorableRuns, formatRuns, variationSelectorRuns])
    (union (union blanks (property prependedMarkRuns))
      (property [(0xfff9, 0xfffb), (0x13430, 0x13440)]))

def extending : CharSet := anyOf [nonspacingRuns, enclosingRuns, otherExtendingRuns]

def base : CharSet :=
  diff (compl (union unassigned
    (anyOf [controlRuns, formatRuns, privateRuns, lineSeparatorRuns, paragraphSeparatorRuns])))
      extending

def mathematical : CharSet := anyOf [mathSymbolRuns, otherMathRuns]

def joiners : CharSet := property [(0x200c, 0x200d)]

def asciiHexDigits : CharSet := property [(0x0030, 0x0039), (0x0041, 0x0046), (0x0061, 0x0066)]

/-- The digits of base sixteen, the fullwidth ones among them. -/
def hexDigits : CharSet :=
  union asciiHexDigits (property [(0xff10, 0xff19), (0xff21, 0xff26), (0xff41, 0xff46)])

end GrammarBrew.Property
