import GrammarBrew.Regex.Size
import GrammarBrew.Text.Class

/-!
Where a macro name stands in a text. A name is always literal. In word-boundary mode an edge of the
name that is a name character must also be an edge of a word: of the two characters that meet there
exactly one is a word character. Occurrences are taken from the left and do not overlap.
-/

set_option autoImplicit false
set_option relaxedAutoImplicit false

namespace GrammarBrew

inductive MatchMode where
  | wordBoundary
  | substring
  deriving DecidableEq, Repr, Inhabited

namespace MatchMode

/-- The mode's name in configuration and on the command line. -/
def label : MatchMode → Text
  | wordBoundary => "word-boundary".toList
  | substring => "substring".toList

def all : List MatchMode := [wordBoundary, substring]

def ofLabel? (label : Text) : Option MatchMode := all.find? fun mode => mode.label == label

end MatchMode

/-- A macro name with the edges that must be word boundaries. -/
structure Matcher where
  name : Text
  /-- Whether a word must begin or end where an occurrence begins. -/
  guardsStart : Bool
  guardsEnd : Bool
  deriving DecidableEq, Repr

namespace Matcher

def ofName (mode : MatchMode) (name : Text) : Matcher :=
  match mode with
  | .substring => ⟨name, false, false⟩
  | .wordBoundary => ⟨name, name.head?.any Text.isNameChar, name.getLast?.any Text.isNameChar⟩

/-- The condition on one side of a name, if it asks for one. -/
def guard (guards : Bool) : List Normal := if guards then [.look (.wordEdge true)] else []

def normal (matcher : Matcher) : Normal :=
  .ofParts (guard matcher.guardsStart ++ .literal matcher.name :: guard matcher.guardsEnd)

/-- Whether a word begins or ends between two neighbours; the ends of a text are no word
characters. -/
def isBoundary (before after : Option Char) : Bool :=
  before.any Text.isWord != after.any Text.isWord

/-- The text after an occurrence that begins right here, where `before` is the character before
it. -/
def matchHere? (matcher : Matcher) (before : Option Char) (text : Text) : Option Text :=
  match matcher.name.isPrefixOf? text with
  | none => none
  | some rest =>
    if (!matcher.guardsStart || isBoundary before text.head?)
        && (!matcher.guardsEnd || isBoundary matcher.name.getLast? rest.head?)
    then some rest
    else none

/-- A name is a prefix where the text is the name and what is left. -/
theorem isPrefixOf?_eq_some_iff {name text rest : Text} :
    name.isPrefixOf? text = some rest ↔ text = name ++ rest := by
  induction name generalizing text with
  | nil => exact Option.some_inj
  | cons c name ih =>
    cases text with
    | nil =>
      change (none : Option Text) = some rest ↔ [] = c :: (name ++ rest)
      simp
    | cons d text =>
      change (if c == d then name.isPrefixOf? text else none) = some rest
        ↔ d :: text = c :: (name ++ rest)
      by_cases hcd : c = d
      · simp [hcd, ih]
      · simp [hcd, Ne.symm hcd]

theorem length_of_matchHere? {matcher : Matcher} {before : Option Char} {text rest : Text}
    (h : matcher.matchHere? before text = some rest) :
    text.length = matcher.name.length + rest.length := by
  unfold matchHere? at h
  split at h
  · simp at h
  next hprefix =>
    split at h
    · cases h
      rw [isPrefixOf?_eq_some_iff.1 hprefix, List.length_append]
    · simp at h

/-- The parts of a text between the occurrences, where the characters `seen`, latest first, begin
the current part and `before` is the last character that was passed. -/
def partsFrom (matcher : Matcher) (before : Option Char) (seen : Text) : Text → List Text
  | [] => [seen.reverse]
  | c :: text =>
    match _hit : matcher.matchHere? before (c :: text) with
    | none => partsFrom matcher (some c) (c :: seen) text
    | some rest =>
      if _named : matcher.name = [] then partsFrom matcher (some c) (c :: seen) text
      else seen.reverse :: partsFrom matcher matcher.name.getLast? [] rest
  termination_by text => text.length
  decreasing_by
    · exact Nat.lt_succ_self _
    · exact Nat.lt_succ_self _
    · have lengths := length_of_matchHere? _hit
      have := List.length_pos_iff.2 _named
      omega

/-- The parts of a text between the leftmost occurrences that do not overlap: one more than there
are occurrences. -/
def parts (matcher : Matcher) (text : Text) : List Text := matcher.partsFrom none [] text

def count (matcher : Matcher) (text : Text) : Nat := (matcher.parts text).length - 1

def hits (matcher : Matcher) (text : Text) : Bool := matcher.count text != 0

def replace (matcher : Matcher) (value text : Text) : Text := Text.join value (matcher.parts text)

example : (ofName .substring ['a']).parts ['a', 'b', 'a'] = [[], ['b'], []] := by decide +kernel
example : (ofName .wordBoundary ['a']).count ['a', 'b', ' ', 'a'] = 1 := by decide +kernel

end Matcher

end GrammarBrew
