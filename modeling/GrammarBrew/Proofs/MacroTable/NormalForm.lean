import GrammarBrew.Proofs.MacroTable.Strip
import Mathlib.Data.List.Basic

/-!
The normal form of a declaration. Stripping takes blanks away and nothing else: those at the two
ends, and of the others those that have an even number of quotes before them. A literal between
quotes is left as it is.
-/

set_option autoImplicit false
set_option relaxedAutoImplicit false

namespace GrammarBrew.Declaration

open Text

variable {text front blanks literal rest : Text} {inQuotes : Bool}

/-- Whether a place in a text, told by how many characters stand before it, has an odd number of
quotes before it. -/
def InsideAt (text : Text) (place : Nat) : Prop := (text.take place).count '\'' % 2 = 1

instance (text : Text) (place : Nat) : Decidable (InsideAt text place) :=
  inferInstanceAs (Decidable ((text.take place).count '\'' % 2 = 1))

def kept (text : Text) : Text :=
  (text.zipIdx.filter fun entry => !isBlank entry.1 || decide (InsideAt text entry.2)).map Prod.fst

example : kept ['A', ' ', '\'', ' ', '\'', ' ', '\'', '\t']
    = ['A', '\'', ' ', '\'', '\'', '\t'] := by decide

/-! ### What is kept -/

private theorem stripFrom_eq_filter (front rest : Text) :
    stripFrom (quotesAfter false front) rest = ((rest.zipIdx front.length).filter fun entry =>
      !isBlank entry.1 || decide (InsideAt (front ++ rest) entry.2)).map Prod.fst := by
  induction rest generalizing front with
  | nil => rfl
  | cons c rest ih =>
    have hnext := ih (front ++ [c])
    have hafter : quotesAfter false (front ++ [c])
        = if c = '\'' then !quotesAfter false front else quotesAfter false front := by
      rw [quotesAfter, List.foldl_append]
      rfl
    have hinside : decide (InsideAt (front ++ c :: rest) front.length)
        = quotesAfter false front := by
      rw [quotesAfter_eq, Bool.false_xor]
      exact congrArg (fun before => decide (before.count '\'' % 2 = 1)) List.take_left
    rw [List.append_assoc, List.singleton_append, List.length_append, List.length_singleton]
      at hnext
    rw [List.zipIdx_cons, List.filter_cons, hinside]
    by_cases hblank : isBlank c = true
    · have hquote : c ≠ '\'' := by
        rintro rfl
        simp [not_isBlank_quote] at hblank
      rw [hafter, if_neg hquote] at hnext
      cases hquotes : quotesAfter false front with
      | false => simpa [stripFrom, hblank, hquotes] using hnext
      | true => simpa [stripFrom, hblank, hquotes] using hnext
    · rw [hafter] at hnext
      simpa [stripFrom, hblank] using hnext

private theorem strip_eq_kept (text : Text) : strip text = kept (trim text) :=
  stripFrom_eq_filter [] (trim text)

private theorem filter_stripFrom :
    (stripFrom inQuotes text).filter (!isBlank ·) = text.filter (!isBlank ·) := by
  induction text generalizing inQuotes with
  | nil => rfl
  | cons c text ih =>
    by_cases hblank : isBlank c = true
    · cases inQuotes <;> simp [stripFrom, hblank, ih]
    · simp [stripFrom, hblank, ih]

private theorem filter_eq_nil_of_allBlank (h : AllBlank blanks) : blanks.filter (!isBlank ·) = [] :=
  List.filter_eq_nil_iff.2 fun c hc => by simp [h c hc]

private theorem filter_trim (text : Text) :
    (trim text).filter (!isBlank ·) = text.filter (!isBlank ·) := by
  obtain ⟨before, hbefore, hstart⟩ := exists_allBlank_append_trimStart text
  obtain ⟨after, hafter, hend⟩ := exists_trimEnd_append_allBlank (trimStart text)
  rw [← trim] at hend
  conv_rhs =>
    rw [hstart, hend, List.filter_append, List.filter_append, filter_eq_nil_of_allBlank hbefore,
    filter_eq_nil_of_allBlank hafter, List.nil_append, List.append_nil]

private theorem filter_strip (text : Text) :
    (strip text).filter (!isBlank ·) = text.filter (!isBlank ·) := by
  rw [strip, filter_stripFrom, filter_trim]

/-! ### Literals -/

private theorem stripFrom_literal (h : '\'' ∉ literal) : stripFrom true literal = literal := by
  induction literal with
  | nil => rfl
  | cons c literal ih =>
    obtain ⟨hc, hrest⟩ := List.ne_and_not_mem_of_not_mem_cons h
    by_cases hblank : isBlank c = true
    · simp [stripFrom, hblank, ih hrest]
    · simp [stripFrom, hblank, Ne.symm hc, ih hrest]

private theorem balanced_append_of_allBlank (h : AllBlank blanks) :
    Balanced (front ++ blanks) ↔ Balanced front := by
  have hnone : blanks.count '\'' = 0 := List.count_eq_zero.2 fun hmem => by
    simpa [not_isBlank_quote] using h _ hmem
  rw [Balanced, List.count_append, hnone, Nat.add_zero, Balanced]

private theorem strip_eq_stripFrom_trimEnd (text : Text) :
    strip text = stripFrom false (trimEnd text) := by
  rw [← strip_trimEnd, strip_eq_stripFrom trimEnd_trimEnd]

private theorem strip_of_balanced (h : Balanced text) : strip text = stripFrom false text := by
  obtain ⟨blanks, hblanks, htext⟩ := exists_trimEnd_append_allBlank text
  have hend : Balanced (trimEnd text) := (balanced_append_of_allBlank hblanks).1 (htext ▸ h)
  calc strip text
      = stripFrom false (trimEnd text ++ []) := by rw [List.append_nil, strip_eq_stripFrom_trimEnd]
    _ = stripFrom false (trimEnd text ++ blanks ++ []) := (stripFrom_insert hend hblanks).symm
    _ = stripFrom false text := by rw [List.append_nil, ← htext]

private theorem trimEnd_quote_cons (rest : Text) :
    trimEnd ('\'' :: rest) = '\'' :: trimEnd rest := by
  by_cases hrest : AllBlank rest
  · have hquote : trimEnd (['\''] ++ rest) = trimEnd ([] ++ ['\'']) :=
      trimEnd_append_of_allBlank hrest
    rw [trimEnd_append_singleton not_isBlank_quote] at hquote
    rw [trimEnd_eq_nil_iff.2 hrest]
    exact hquote
  · have happend : trimEnd (['\''] ++ rest) = ['\''] ++ trimEnd rest := trimEnd_append hrest
    exact happend

private theorem strip_literal (hfront : Balanced front) (hliteral : '\'' ∉ literal) :
    strip (front ++ '\'' :: (literal ++ '\'' :: rest)) = strip front ++ '\'' ::
      (literal ++ '\'' :: strip rest) := by
  have hquote : ∀ rest, ¬ AllBlank ('\'' :: rest) := by simp [not_isBlank_quote]
  have hends : trimEnd (front ++ '\'' :: (literal ++ '\'' :: rest))
      = front ++ '\'' :: (literal ++ '\'' :: trimEnd rest) := by
    rw [trimEnd_append (hquote _), trimEnd_quote_cons, trimEnd_append (hquote _),
      trimEnd_quote_cons]
  have hopen : ∀ inside rest, stripFrom inside ('\'' :: rest)
      = '\'' :: stripFrom (!inside) rest := by
    intro inside rest
    simp [stripFrom, not_isBlank_quote]
  have hwithin : quotesAfter true literal = true := by
    rw [quotesAfter_eq, List.count_eq_zero.2 hliteral]
    rfl
  rw [strip_eq_stripFrom_trimEnd, hends, stripFrom_append, quotesAfter_of_balanced hfront, hopen,
    Bool.not_false, stripFrom_append, stripFrom_literal hliteral, hwithin, hopen, Bool.not_true,
    ← strip_eq_stripFrom_trimEnd, ← strip_of_balanced hfront]

/-! ### The normal form -/

private theorem parse_eq_ok_iff_of_strip_eq {other : Text} (h : strip text = strip other)
    (entry : Text × Text) :
    parse text = .ok entry ↔ parse other = .ok entry := by
  unfold parse
  rw [h]
  cases cutName? (strip other) <;> simp

/-- Stripping is a normal form of layout. Blanks after an even number of quotes may be put in or
left out, a second time nothing is stripped, all that is no blank stays in its order, the blanks
that stay are those of the trimmed text with an odd number of quotes before them, and a literal is
left as it is. -/
theorem strip_normal_form :
    (∀ front blanks rest, Balanced front → AllBlank blanks →
        strip (front ++ blanks ++ rest) = strip (front ++ rest) ∧
          ∀ entry, parse (front ++ blanks ++ rest) = .ok entry
            ↔ parse (front ++ rest) = .ok entry) ∧
      (∀ text, strip (strip text) = strip text) ∧
      (∀ text, (strip text).filter (!isBlank ·) = text.filter (!isBlank ·)) ∧
      (∀ text, strip text = kept (trim text)) ∧
      ∀ front literal rest, Balanced front → '\'' ∉ literal →
        strip (front ++ '\'' :: (literal ++ '\'' :: rest))
          = strip front ++ '\'' :: (literal ++ '\'' :: strip rest) := by
  refine ⟨fun front blanks rest hfront hblanks => ?_, fun text => strip_strip, filter_strip,
    strip_eq_kept,
    fun front literal rest => strip_literal⟩
  have hsame : strip (front ++ blanks ++ rest) = strip (front ++ rest) :=
    strip_insert hfront hblanks
  exact ⟨hsame, parse_eq_ok_iff_of_strip_eq hsame⟩

/-- Blanks between two literals, of which the second is never closed and ends in a blank. -/
theorem unclosed_normal_form :
    let front := ['A', ':', '\'', ' ', '\'']
    let blanks := ['\t', '\u3000']
    let rest := ['\'', ' ', 'x', ' ']
    Balanced front ∧ AllBlank blanks ∧
      strip (front ++ blanks ++ rest) = ['A', ':', '\'', ' ', '\'', '\'', ' ', 'x'] ∧
      strip (front ++ rest) = ['A', ':', '\'', ' ', '\'', '\'', ' ', 'x'] ∧
      parse (front ++ blanks ++ rest) = .ok (['A'], ['\'', ' ', '\'', '\'', ' ', 'x']) := by
  intro front blanks rest
  have hfront : Balanced front := by decide
  have hblanks : AllBlank blanks := by
    rw [AllBlank, ← List.all_eq_true]
    decide
  obtain ⟨hsame, hparse⟩ := strip_normal_form.1 front blanks rest hfront hblanks
  have hstrip : strip (front ++ rest) = ['A', ':', '\'', ' ', '\'', '\'', ' ', 'x'] := by decide
  exact ⟨hfront, hblanks, hsame.trans hstrip, hstrip, (hparse _).2 rfl⟩

end GrammarBrew.Declaration
