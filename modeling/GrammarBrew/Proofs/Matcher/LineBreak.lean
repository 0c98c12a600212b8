import GrammarBrew.Proofs.Matcher.Separator
import GrammarBrew.Proofs.Text.LineBreak

/-!
A name without line breaks is found in the same places whatever the line breaks of a text are: no
occurrence takes one in, and none of the two characters is a word character, so that the words end
where they did.
-/

set_option autoImplicit false
set_option relaxedAutoImplicit false

namespace GrammarBrew.Matcher

open Text

variable {matcher : Matcher} {before : Option Char} {seen text value : Text}

private theorem isWord_lineBreak : isWord '\r' = false ∧ isWord '\n' = false := by decide +kernel

private theorem isBoundary_crlf :
    isBoundary before (crlf text).head? = isBoundary before text.head? := by
  cases text with
  | nil => rfl
  | cons c text =>
    by_cases hc : c = '\n'
    · subst hc
      simp [isBoundary, isWord_lineBreak]
    · rw [crlf_cons hc]
      rfl

private theorem matchHere?_crlf (oneLine : OneLine matcher.name) :
    matcher.matchHere? before (crlf text) = (matcher.matchHere? before text).map crlf := by
  unfold matchHere?
  rw [isPrefixOf?_crlf oneLine]
  cases matcher.name.isPrefixOf? text with
  | none => rfl
  | some rest =>
    simp only [Option.map_some, isBoundary_crlf]
    split <;> rfl

private theorem matchHere?_lineBreak (named : matcher.name ≠ []) (oneLine : OneLine matcher.name) :
    matcher.matchHere? before ('\r' :: text) = none ∧
      matcher.matchHere? before ('\n' :: text) = none := by
  unfold matchHere?
  rw [(isPrefixOf?_lineBreak oneLine named).1, (isPrefixOf?_lineBreak oneLine named).2]
  exact ⟨rfl, rfl⟩

private theorem partsFrom_crlf (named : matcher.name ≠ []) (oneLine : OneLine matcher.name) :
    matcher.partsFrom before (crlf seen.reverse).reverse (crlf text)
      = (matcher.partsFrom before seen text).map crlf := by
  induction before, text using scanInduction named generalizing seen with
  | nil before => simp
  | miss before c text hmiss ih =>
    rw [partsFrom_miss hmiss]
    by_cases hc : c = '\n'
    · subst hc
      have hseen : '\n' :: '\r' :: (crlf seen.reverse).reverse
          = (crlf ('\n' :: seen).reverse).reverse := by
        simp
      rw [crlf_lineFeed, partsFrom_miss (matchHere?_lineBreak named oneLine).1,
        partsFrom_miss (matchHere?_lineBreak named oneLine).2, hseen, ih]
    · have hseen : c :: (crlf seen.reverse).reverse = (crlf (c :: seen).reverse).reverse := by
        simp [crlf_cons hc]
      have hmiss' : matcher.matchHere? before (c :: crlf text) = none := by
        rw [← crlf_cons hc, matchHere?_crlf oneLine, hmiss, Option.map_none]
      rw [crlf_cons hc, partsFrom_miss hmiss', hseen, ih]
  | hit before c text rest hhit ih =>
    have hc : c ≠ '\n' := by
      rintro rfl
      exact nomatch hhit.symm.trans (matchHere?_lineBreak named oneLine).2
    have hhit' : matcher.matchHere? before (c :: crlf text) = some (crlf rest) := by
      rw [← crlf_cons hc, matchHere?_crlf oneLine, hhit, Option.map_some]
    have hrest : matcher.partsFrom matcher.name.getLast? (crlf [].reverse).reverse (crlf rest)
        = (matcher.partsFrom matcher.name.getLast? [] rest).map crlf := ih
    rw [crlf_cons hc, partsFrom_hit named hhit', partsFrom_hit named hhit, List.map_cons, ← hrest]
    simp

private theorem parts_crlf (named : matcher.name ≠ []) (oneLine : OneLine matcher.name)
    (text : Text) :
    matcher.parts (crlf text) = (matcher.parts text).map crlf := by
  have hstart : matcher.partsFrom none (crlf [].reverse).reverse (crlf text)
      = (matcher.partsFrom none [] text).map crlf := partsFrom_crlf named oneLine
  exact hstart

theorem count_crlf (named : matcher.name ≠ []) (oneLine : OneLine matcher.name) :
    matcher.count (crlf text) = matcher.count text := by
  rw [count, parts_crlf named oneLine, List.length_map, count]

theorem hits_crlf (named : matcher.name ≠ []) (oneLine : OneLine matcher.name) :
    matcher.hits (crlf text) = matcher.hits text := by
  rw [hits, count_crlf named oneLine, hits]

theorem replace_crlf (named : matcher.name ≠ []) (oneLine : OneLine matcher.name) :
    matcher.replace (crlf value) (crlf text) = crlf (matcher.replace value text) := by
  rw [replace, parts_crlf named oneLine, join_crlf, replace]

end GrammarBrew.Matcher
