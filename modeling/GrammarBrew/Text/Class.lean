import GrammarBrew.Text.Basic
import GrammarBrew.Text.Alphabetic
import GrammarBrew.Text.Number
import GrammarBrew.Text.Word

/-!
The classes of characters that grammar text is read by. Blanks are the Unicode property White_Space.
A name character and a word character are two different notions: a superscript two is alphanumeric
and no word character, a combining mark is a word character and need not be alphanumeric. They also
follow different versions of Unicode, names the 17th and words the 16th.
-/

set_option autoImplicit false
set_option relaxedAutoImplicit false

namespace GrammarBrew.Text

/-- Whether a code point lies in one of some ascending runs, ends included. -/
def inRuns : List (Nat × Nat) → Nat → Bool
  | [], _ => false
  | (first, last) :: runs, n => decide (first ≤ n) && (decide (n ≤ last) || inRuns runs n)

def blankRuns : List (Nat × Nat) := [
  (0x0009, 0x000d), (0x0020, 0x0020), (0x0085, 0x0085), (0x00a0, 0x00a0), (0x1680, 0x1680),
  (0x2000, 0x200a), (0x2028, 0x2029), (0x202f, 0x202f), (0x205f, 0x205f), (0x3000, 0x3000)
]

def isBlank (c : Char) : Bool := inRuns blankRuns c.toNat

def isAlphanumeric (c : Char) : Bool :=
  inRuns alphabeticRuns c.toNat || inRuns numberRuns c.toNat

/-- What makes the edge of a macro name a word edge: alphanumeric or the low line. -/
def isNameChar (c : Char) : Bool := isAlphanumeric c || c == '_'

/-- A word character of the boundary between words: alphabetic, a mark, a decimal digit, connector
punctuation or a join control. -/
def isWord (c : Char) : Bool := inRuns wordRuns c.toNat

def isAsciiDigit (c : Char) : Bool := decide ('0' ≤ c) && decide (c ≤ '9')

/-- A text without the blanks before its first other character. -/
def trimStart (text : Text) : Text := text.dropWhile isBlank

/-- A text without the blanks after its last other character. -/
def trimEnd (text : Text) : Text := (text.reverse.dropWhile isBlank).reverse

def trim (text : Text) : Text := trimEnd (trimStart text)

example : isAlphanumeric '²' = true ∧ isWord '²' = false := by decide +kernel
example : isAlphanumeric '\u0301' = false ∧ isWord '\u0301' = true := by decide +kernel
example : trim [' ', 'a', ' ', 'b', '\n'] = ['a', ' ', 'b'] := by decide

end GrammarBrew.Text
