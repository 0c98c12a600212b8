import GrammarBrew.Declaration
import GrammarBrew.Proofs.Text.Blank
import GrammarBrew.Proofs.Text.Cut

/-!
Stripping a declaration goes through it quote by quote. Outside quotes, that is after an even number
of them, blanks may stand anywhere without being read.
-/

set_option autoImplicit false
set_option relaxedAutoImplicit false

namespace GrammarBrew.Declaration

open Text

variable {c : Char} {inQuotes : Bool} {text front blanks rest : Text}

def Balanced (text : Text) : Prop := text.count '\'' % 2 = 0

instance (text : Text) : Decidable (Balanced text) :=
  inferInstanceAs (Decidable (text.count '\'' % 2 = 0))

def quotesAfter (inQuotes : Bool) (text : Text) : Bool :=
  text.foldl (fun inside c => if c = '\'' then !inside else inside) inQuotes

theorem quotesAfter_eq :
    quotesAfter inQuotes text = (inQuotes ^^ decide (text.count '\'' % 2 = 1)) := by
  induction text generalizing inQuotes with
  | nil => simp [quotesAfter]
  | cons c text ih =>
    change quotesAfter (if c = '\'' then !inQuotes else inQuotes) text = _
    rw [ih, List.count_cons]
    by_cases hc : c = '\''
    · subst hc
      rcases Nat.mod_two_eq_zero_or_one (text.count '\'') with hcount | hcount
      · have hnext : (text.count '\'' + 1) % 2 = 1 := by omega
        simp [hcount, hnext]
      · have hnext : (text.count '\'' + 1) % 2 = 0 := by omega
        simp [hcount, hnext]
    · simp [hc]

theorem quotesAfter_of_balanced (h : Balanced text) : quotesAfter false text = false := by
  have hodd : text.count '\'' % 2 ≠ 1 := by
    rw [show text.count '\'' % 2 = 0 from h]
    exact Nat.zero_ne_one
  rw [quotesAfter_eq, decide_eq_false hodd]
  rfl

theorem not_isBlank_quote : isBlank '\'' = false := by decide

/-- A text is stripped up to a place and on from there, inside quotes or outside. -/
theorem stripFrom_append :
    stripFrom inQuotes (front ++ rest)
      = stripFrom inQuotes front ++ stripFrom (quotesAfter inQuotes front) rest := by
  induction front generalizing inQuotes with
  | nil => rfl
  | cons c front ih =>
    have hafter : quotesAfter inQuotes (c :: front)
        = quotesAfter (if c = '\'' then !inQuotes else inQuotes) front := rfl
    rw [hafter, List.cons_append]
    simp only [stripFrom]
    by_cases hblank : isBlank c = true
    · have hquote : c ≠ '\'' := by
        rintro rfl
        simp [not_isBlank_quote] at hblank
      simp only [hblank, hquote, if_true, if_false]
      cases inQuotes with
      | false => simpa using ih
      | true => simpa using ih
    · simp [hblank, ih]

private theorem stripFrom_of_allBlank (h : AllBlank blanks) : stripFrom false blanks = [] := by
  induction blanks with
  | nil => rfl
  | cons c blanks ih =>
    obtain ⟨hc, hothers⟩ := allBlank_cons.1 h
    simp [stripFrom, hc, ih hothers]

theorem stripFrom_insert (hfront : Balanced front) (hblanks : AllBlank blanks) :
    stripFrom false (front ++ blanks ++ rest) = stripFrom false (front ++ rest) := by
  have hnone : blanks.count '\'' = 0 := List.count_eq_zero.2 fun hmem => by
    simpa [not_isBlank_quote] using hblanks _ hmem
  have hboth : Balanced (front ++ blanks) := by
    unfold Balanced
    rwa [List.count_append, hnone]
  have hskip : stripFrom false (front ++ blanks) = stripFrom false front := by
    rw [stripFrom_append, quotesAfter_of_balanced hfront, stripFrom_of_allBlank hblanks,
      List.append_nil]
  rw [stripFrom_append, hskip, quotesAfter_of_balanced hboth, stripFrom_append,
    quotesAfter_of_balanced hfront]

private theorem stripFrom_eq_nil_iff : stripFrom false text = [] ↔ AllBlank text := by
  induction text with
  | nil => simp [stripFrom]
  | cons c text ih =>
    by_cases hc : isBlank c = true
    · simp [stripFrom, hc, ih]
    · simp [stripFrom, hc]

private theorem stripFrom_stripFrom :
    stripFrom inQuotes (stripFrom inQuotes text) = stripFrom inQuotes text := by
  induction text generalizing inQuotes with
  | nil => rfl
  | cons c text ih =>
    by_cases hc : isBlank c = true
    · cases inQuotes with
      | false => simpa [stripFrom, hc] using ih
      | true => simp [stripFrom, hc, ih]
    · simp [stripFrom, hc, ih]

private theorem stripFrom_sublist : (stripFrom inQuotes text).Sublist text := by
  induction text generalizing inQuotes with
  | nil => exact List.Sublist.slnil
  | cons c text ih =>
    simp only [stripFrom]
    split
    · cases inQuotes with
      | false => exact List.Sublist.cons c ih
      | true => exact List.Sublist.cons_cons c ih
    · exact List.Sublist.cons_cons c ih

/-! ### The blanks that are kept -/

private theorem not_isBlank_of_stripFrom_eq_cons (h : stripFrom false text = c :: rest) :
    isBlank c = false := by
  induction text with
  | nil => simp [stripFrom] at h
  | cons d text ih =>
    by_cases hd : isBlank d = true
    · exact ih (by simpa [stripFrom, hd] using h)
    · simp only [stripFrom, hd] at h
      obtain ⟨rfl, -⟩ := List.cons.inj h
      simpa using hd

private theorem prefix_of_prefix_stripFrom (hblanks : AllBlank blanks)
    (h : blanks <+: stripFrom inQuotes text) : blanks <+: text := by
  induction blanks generalizing text with
  | nil => exact List.nil_prefix
  | cons b blanks ih =>
    obtain ⟨hb, hothers⟩ := allBlank_cons.1 hblanks
    obtain ⟨rest, hrest⟩ := h
    cases inQuotes with
    | false => simp [not_isBlank_of_stripFrom_eq_cons hrest.symm] at hb
    | true =>
      cases text with
      | nil => simp [stripFrom] at hrest
      | cons d text =>
        have hsame : d = b := by
          simp only [stripFrom] at hrest
          split at hrest <;> exact (List.cons.inj hrest).1.symm
        subst hsame
        simp only [stripFrom, hb, if_true] at hrest
        exact List.cons_prefix_cons.2 ⟨rfl, ih hothers ⟨rest, (List.cons.inj hrest).2⟩⟩

theorem infix_of_infix_stripFrom (hblanks : AllBlank blanks)
    (h : c :: blanks <:+: stripFrom inQuotes text) : c :: blanks <:+: text := by
  induction text generalizing inQuotes with
  | nil => exact h
  | cons d text ih =>
    have hkept : ∀ inside, c :: blanks <:+: d :: stripFrom inside text →
        c :: blanks <:+: d :: text := by
      intro inside hinside
      rcases List.infix_cons_iff.1 hinside with hbegins | hlater
      · obtain ⟨rfl, hfollow⟩ := List.cons_prefix_cons.1 hbegins
        exact (List.cons_prefix_cons.2 ⟨rfl, prefix_of_prefix_stripFrom hblanks hfollow⟩).isInfix
      · exact (ih hlater).trans (List.suffix_cons d text).isInfix
    simp only [stripFrom] at h
    split at h
    · cases inQuotes with
      | false => exact (ih h).trans (List.suffix_cons d text).isInfix
      | true => exact hkept true h
    · exact hkept _ h

/-! ### With trimming -/

private theorem strip_append_of_allBlank (h : AllBlank rest) :
    strip (front ++ rest) = strip front := by
  rw [strip, trim_eq_trimStart_trimEnd, trimEnd_append_of_allBlank h,
    ← trim_eq_trimStart_trimEnd, strip]

theorem strip_eq_stripFrom (h : trimEnd text = text) : strip text = stripFrom false text := by
  obtain ⟨blanks, hblanks, htext⟩ := exists_allBlank_append_trimStart text
  have hnone : Balanced [] := rfl
  have hinsert : stripFrom false ([] ++ blanks ++ trimStart text)
      = stripFrom false ([] ++ trimStart text) :=
    stripFrom_insert hnone hblanks
  rw [List.nil_append, List.nil_append, ← htext] at hinsert
  rw [strip, trim_eq_trimStart_trimEnd, h, hinsert]

theorem strip_sublist : (strip text).Sublist text := stripFrom_sublist.trans trim_isInfix.sublist

theorem strip_trimEnd : strip (trimEnd text) = strip text := by
  rw [strip, trim_trimEnd, strip]

theorem strip_trim : strip (trim text) = strip text := by rw [strip, trim_trim, strip]

theorem strip_insert (hfront : Balanced front) (hblanks : AllBlank blanks) :
    strip (front ++ blanks ++ rest) = strip (front ++ rest) := by
  by_cases hrest : AllBlank rest
  · rw [strip_append_of_allBlank hrest, strip_append_of_allBlank hrest,
      strip_append_of_allBlank hblanks]
  · have hread : ∀ start, strip (start ++ rest) = stripFrom false (start ++ trimEnd rest) := by
      intro start
      rw [← strip_trimEnd, strip_eq_stripFrom trimEnd_trimEnd, trimEnd_append hrest]
    rw [hread, hread, stripFrom_insert hfront hblanks]

private theorem trimEnd_strip : trimEnd (strip text) = strip text := by
  rcases List.eq_nil_or_concat' (trim text) with hnil | ⟨body, c, hbody⟩
  · rw [strip, hnil]
    rfl
  · have hc : isBlank c = false := by
      by_contra hblank
      have hone : AllBlank [c] := by simpa using hblank
      have hends : trimEnd (body ++ [c]) = body ++ [c] := by rw [← hbody, trimEnd_trim]
      obtain ⟨blanks, -, hsplit⟩ := exists_trimEnd_append_allBlank body
      rw [trimEnd_append_of_allBlank hone] at hends
      rw [hends] at hsplit
      simp at hsplit
    have hlast : ∀ inside, stripFrom inside [c] = [c] := by
      intro inside
      simp [stripFrom, hc]
    rw [strip, hbody, stripFrom_append, hlast]
    exact trimEnd_append_singleton hc

theorem strip_strip : strip (strip text) = strip text := by
  rw [strip_eq_stripFrom trimEnd_strip]
  exact stripFrom_stripFrom

theorem strip_eq_nil_iff : strip text = [] ↔ AllBlank text := by
  rw [← trim_eq_nil_iff, strip, stripFrom_eq_nil_iff, ← trim_eq_nil_iff, trim_trim]

/-! ### The name and the value -/

/-- A declaration is its name, which has no colon and is not empty, a colon, and its value. -/
theorem cutName?_eq_some_iff {name value : Text} :
    cutName? text = some (name, value) ↔ name ≠ [] ∧ ':' ∉ name ∧ text = name ++ ':' :: value := by
  rw [← cut_singleton_eq_some_iff]
  unfold cutName?
  cases hfound : cut [':'] text with
  | none => simp
  | some found =>
    obtain ⟨first, second⟩ := found
    by_cases hfirst : first = []
    · subst hfirst
      simp only [List.isEmpty_nil, if_true, Option.some.injEq, Prod.mk.injEq]
      constructor
      · simp
      · rintro ⟨hname, rfl, -⟩
        exact absurd rfl hname
    · simp only [List.isEmpty_iff, hfirst, if_false, Option.some.injEq, Prod.mk.injEq]
      constructor
      · rintro ⟨rfl, rfl⟩
        exact ⟨hfirst, rfl, rfl⟩
      · exact And.right

theorem parse_of_cutName?_eq_some {entry : Text × Text} (h : cutName? (strip text) = some entry) :
    parse text = .ok entry := by
  simp [parse, h]

theorem parse_of_cutName?_eq_none (h : cutName? (strip text) = none) :
    parse text = .error (.malformedDeclaration (trim text)) := by
  simp [parse, h]

end GrammarBrew.Declaration
