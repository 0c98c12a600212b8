import GrammarBrew.Property.Derived
import GrammarBrew.Property.Emoji
import GrammarBrew.Property.Ideograph
import GrammarBrew.Property.Script

/-!
How text may be cut, by Unicode 16: the part that a character plays at the edges of user-perceived
characters, of words and of sentences. Each of the three properties gives a character one value at
most.
-/

set_option autoImplicit false
set_option relaxedAutoImplicit false

namespace GrammarBrew.Property

open CharSet

def point (n : Nat) : CharSet := property [(n, n)]

def scriptOf (code : String) : CharSet := property ((scriptRuns? code.toList).getD [])

def prependRuns : List (Nat × Nat) := [
  (0x0600, 0x0605), (0x06dd, 0x06dd), (0x070f, 0x070f), (0x0890, 0x0891), (0x08e2, 0x08e2),
  (0x0d4e, 0x0d4e), (0x110bd, 0x110bd), (0x110cd, 0x110cd), (0x111c2, 0x111c3), (0x113d1, 0x113d1),
  (0x1193f, 0x1193f), (0x11941, 0x11941), (0x11a3a, 0x11a3a), (0x11a84, 0x11a89),
  (0x11d46, 0x11d46), (0x11f02, 0x11f02)
]

/-- The runs of spacing marks that do not join the character before them. -/
def apartMarkRuns : List (Nat × Nat) := [
  (0x102b, 0x102c), (0x1038, 0x1038), (0x1062, 0x1064), (0x1067, 0x106d), (0x1083, 0x1083),
  (0x1087, 0x108c), (0x108f, 0x108f), (0x109a, 0x109c), (0x1a61, 0x1a61), (0x1a63, 0x1a64),
  (0xaa7b, 0xaa7b), (0xaa7d, 0xaa7d), (0x11720, 0x11721)
]

def wordSignRuns : List (Nat × Nat) := [
  (0x00b8, 0x00b8), (0x02c2, 0x02c5), (0x02d2, 0x02d7), (0x02de, 0x02df), (0x02e5, 0x02eb),
  (0x02ed, 0x02ed), (0x02ef, 0x02ff), (0x055a, 0x055c), (0x055e, 0x055e), (0x058a, 0x058a),
  (0x05f3, 0x05f3), (0x070f, 0x070f), (0xa708, 0xa716), (0xa720, 0xa721), (0xa789, 0xa78a),
  (0xab5b, 0xab5b)
]

/-- The runs of letters of scripts that leave no gaps between words. -/
def gaplessLetterRuns : List (Nat × Nat) := [
  (0x0e01, 0x0e30), (0x0e32, 0x0e33), (0x0e40, 0x0e46), (0x0e81, 0x0e82), (0x0e84, 0x0e84),
  (0x0e86, 0x0e8a), (0x0e8c, 0x0ea3), (0x0ea5, 0x0ea5), (0x0ea7, 0x0eb0), (0x0eb2, 0x0eb3),
  (0x0ebd, 0x0ebd), (0x0ec0, 0x0ec4), (0x0ec6, 0x0ec6), (0x0edc, 0x0edf), (0x1000, 0x102a),
  (0x103f, 0x103f), (0x1050, 0x1055), (0x105a, 0x105d), (0x1061, 0x1061), (0x1065, 0x1066),
  (0x106e, 0x1070), (0x1075, 0x1081), (0x108e, 0x108e), (0x1780, 0x17b3), (0x17d7, 0x17d7),
  (0x17dc, 0x17dc), (0x1950, 0x196d), (0x1970, 0x1974), (0x1980, 0x19ab), (0x19b0, 0x19c9),
  (0x1a20, 0x1a54), (0x1aa7, 0x1aa7), (0xa9e0, 0xa9e4), (0xa9e6, 0xa9ef), (0xa9fa, 0xa9fe),
  (0xaa60, 0xaa76), (0xaa7a, 0xaa7a), (0xaa7e, 0xaaaf), (0xaab1, 0xaab1), (0xaab5, 0xaab6),
  (0xaab9, 0xaabd), (0xaac0, 0xaac0), (0xaac2, 0xaac2), (0xaadb, 0xaadd), (0x11700, 0x1171a),
  (0x11740, 0x11746)
]

def extender : CharSet := union extending (property emojiModifierRuns)

def leadingJamo : CharSet := property [(0x1100, 0x115f), (0xa960, 0xa97c)]

def vowelJamo : CharSet :=
  property [(0x1160, 0x11a7), (0xd7b0, 0xd7c6), (0x16d63, 0x16d63), (0x16d67, 0x16d6a)]

def trailingJamo : CharSet := property [(0x11a8, 0x11ff), (0xd7cb, 0xd7fb)]

/-- The Hangul syllables that have no end of their own: every twenty-eighth one. -/
def openSyllables : CharSet :=
  property ((List.range 399).map fun k => (0xac00 + 28 * k, 0xac00 + 28 * k))

/-- The values of Grapheme_Cluster_Break: their names, and the characters that have them. -/
def clusterBreaks : List (List String × CharSet) := [
  (["cr"], point 0x0d),
  (["lf"], point 0x0a),
  (["zwj"], point 0x200d),
  (["prepend", "pp"], property prependRuns),
  (["extend", "ex"], extender),
  (["control", "cn"],
    diff (union (anyOf [lineSeparatorRuns, paragraphSeparatorRuns, controlRuns, formatRuns])
      (inter unassigned ignorable))
      (union extender (anyOf [[(0x0a, 0x0a), (0x0d, 0x0d), (0x200d, 0x200d)], prependRuns]))),
  (["regionalindicator", "ri"], property regionalRuns),
  (["spacingmark", "sm"],
    union (diff (property spacingMarkRuns) (union extender (property apartMarkRuns)))
      (property [(0x0e33, 0x0e33), (0x0eb3, 0x0eb3)])),
  (["l"], leadingJamo),
  (["v"], vowelJamo),
  (["t"], trailingJamo),
  (["lv"], openSyllables),
  (["lvt"], diff (property [(0xac00, 0xd7a3)]) openSyllables)
]

/-- The marks that stand before digits and count as one of them. -/
def prependedDigits : CharSet := diff (property prependedMarkRuns) (point 0x070f)

def wordExtender : CharSet := union extender (property spacingMarkRuns)

def hebrewLetters : CharSet := inter (scriptOf "hebr") (property otherLetterRuns)

def katakana : CharSet :=
  union (scriptOf "kana")
    (property [(0x3031, 0x3035), (0x309b, 0x309c), (0x30a0, 0x30a0), (0x30fc, 0x30fc),
      (0xff70, 0xff70)])

def wordNumbers : CharSet :=
  union (union digits prependedDigits) (property [(0x066b, 0x066b), (0x19da, 0x19da)])

def wordLetters : CharSet :=
  diff (union alphabetic (property wordSignRuns))
    (union (union (anyOf [ideographRuns, gaplessLetterRuns]) (union katakana hebrewLetters))
      (union (scriptOf "hira") wordExtender))

/-- The values of Word_Break: their names, and the characters that have them. -/
def wordBreaks : List (List String × CharSet) := [
  (["cr"], point 0x0d),
  (["lf"], point 0x0a),
  (["newline", "nl"], property [(0x0b, 0x0c), (0x85, 0x85), (0x2028, 0x2029)]),
  (["zwj"], point 0x200d),
  (["extend"], wordExtender),
  (["format", "fo"],
    diff (property formatRuns) (union wordExtender
      (anyOf [[(0x200b, 0x200d)], prependedMarkRuns]))),
  (["regionalindicator", "ri"], property regionalRuns),
  (["katakana", "ka"], katakana),
  (["hebrewletter", "hl"], hebrewLetters),
  (["aletter", "le"], wordLetters),
  (["numeric", "nu"], wordNumbers),
  (["singlequote", "sq"], point 0x27),
  (["doublequote", "dq"], point 0x22),
  (["midletter", "ml"],
    property [(0x003a, 0x003a), (0x00b7, 0x00b7), (0x0387, 0x0387), (0x055f, 0x055f),
      (0x05f4, 0x05f4), (0x2027, 0x2027), (0xfe13, 0xfe13), (0xfe55, 0xfe55), (0xff1a, 0xff1a)]),
  (["midnum", "mn"],
    property [(0x002c, 0x002c), (0x003b, 0x003b), (0x037e, 0x037e), (0x0589, 0x0589),
      (0x060c, 0x060d),
      (0x066c, 0x066c), (0x07f8, 0x07f8), (0x2044, 0x2044), (0xfe50, 0xfe50), (0xfe54, 0xfe54),
      (0xff0c, 0xff0c), (0xff1b, 0xff1b)]),
  (["midnumlet", "mb"],
    property [(0x002e, 0x002e), (0x2018, 0x2019), (0x2024, 0x2024), (0xfe52, 0xfe52),
      (0xff07, 0xff07), (0xff0e, 0xff0e)]),
  (["extendnumlet", "ex"],
    property [(0x005f, 0x005f), (0x202f, 0x202f), (0x203f, 0x2040), (0x2054, 0x2054),
      (0xfe33, 0xfe34), (0xfe4d, 0xfe4f), (0xff3f, 0xff3f)]),
  (["wsegspace"],
    property [(0x0020, 0x0020), (0x1680, 0x1680), (0x2000, 0x2006), (0x2008, 0x200a),
      (0x205f, 0x205f), (0x3000, 0x3000)])
]

def ambiguousStops : CharSet :=
  property [(0x002e, 0x002e), (0x2024, 0x2024), (0xfe52, 0xfe52), (0xff0e, 0xff0e)]

def sentenceExtender : CharSet := union (union extending (property spacingMarkRuns)) (point 0x200d)

/-- The Georgian letters that are written alike in lower and title case. -/
def georgianLower : CharSet := property [(0x10d0, 0x10fa), (0x10fd, 0x10ff)]

def georgianUpper : CharSet := property [(0x1c90, 0x1cba), (0x1cbd, 0x1cbf)]

def sentenceLower : CharSet := diff lowercase (union georgianLower sentenceExtender)

def sentenceUpper : CharSet := diff (union uppercase (property titlecaseRuns)) georgianUpper

/-- The values of Sentence_Break: their names, and the characters that have them. -/
def sentenceBreaks : List (List String × CharSet) := [
  (["cr"], point 0x0d),
  (["lf"], point 0x0a),
  (["sep", "se"], property [(0x85, 0x85), (0x2028, 0x2029)]),
  (["extend", "ex"], sentenceExtender),
  (["format", "fo"],
    diff (property formatRuns) (union (union sentenceExtender (point 0x200c)) prependedDigits)),
  (["sp"],
    property [(0x0009, 0x0009), (0x000b, 0x000c), (0x0020, 0x0020), (0x00a0, 0x00a0),
      (0x1680, 0x1680), (0x2000, 0x200a), (0x202f, 0x202f), (0x205f, 0x205f), (0x3000, 0x3000)]),
  (["lower", "lo"], sentenceLower),
  (["upper", "up"], sentenceUpper),
  (["oletter", "le"],
    diff (union alphabetic (point 0x05f3))
      (union (union sentenceLower sentenceUpper) sentenceExtender)),
  (["numeric", "nu"], union wordNumbers (point 0x066c)),
  (["aterm", "at"], ambiguousStops),
  (["scontinue", "sc"],
    property [(0x002c, 0x002d), (0x003a, 0x003b), (0x037e, 0x037e), (0x055d, 0x055d),
      (0x060c, 0x060d),
      (0x07f8, 0x07f8), (0x1802, 0x1802), (0x1808, 0x1808), (0x2013, 0x2014), (0x3001, 0x3001),
      (0xfe10, 0xfe11), (0xfe13, 0xfe14), (0xfe31, 0xfe32), (0xfe50, 0xfe51), (0xfe54, 0xfe55),
      (0xfe58, 0xfe58), (0xfe63, 0xfe63), (0xff0c, 0xff0d), (0xff1a, 0xff1b), (0xff64, 0xff64)]),
  (["sterm", "st"], diff (property sentenceTerminalRuns) ambiguousStops),
  (["close", "cl"],
    anyOf [openRuns, closeRuns, initialQuoteRuns, finalQuoteRuns,
      [(0x0022, 0x0022), (0x0027, 0x0027), (0x275b, 0x2760), (0x2e00, 0x2e01), (0x2e06, 0x2e08),
        (0x2e0b, 0x2e0b), (0x1f676, 0x1f678)]])
]

end GrammarBrew.Property
