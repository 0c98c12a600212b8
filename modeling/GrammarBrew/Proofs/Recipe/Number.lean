import GrammarBrew.Proofs.Recipe.Version
import Mathlib.Data.Nat.Digits.Lemmas

/-!
Versions as numbers. Digits without leading zeros are compared by how many they are and then one by
one, which is the order of the numbers that they denote, however long they are.
-/

set_option autoImplicit false
set_option relaxedAutoImplicit false

namespace GrammarBrew.Candidate

open Text

variable {c d : Char} {digits text x y : Text}

/-! ### What digits denote -/

def digitValue (c : Char) : Nat := c.toNat - '0'.toNat

/-- The number that decimal digits denote, the most significant first. -/
def decimal (digits : Text) : Nat := Nat.ofDigits 10 (digits.reverse.map digitValue)

structure IsNumeral (digits : Text) : Prop where
  digit : ∀ c ∈ digits, isAsciiDigit c = true
  nonempty : digits ≠ []
  significant : digits.head? = some '0' → digits = ['0']

private theorem isAsciiDigit_iff : isAsciiDigit c = true ↔ 48 ≤ c.toNat ∧ c.toNat ≤ 57 := by
  rw [isAsciiDigit, Bool.and_eq_true, decide_eq_true_eq, decide_eq_true_eq]
  exact Iff.rfl

private theorem digitValue_lt (h : isAsciiDigit c = true) : digitValue c < 10 := by
  have hc := isAsciiDigit_iff.1 h
  show c.toNat - 48 < 10
  omega

private theorem digitValue_lt_iff (hc : isAsciiDigit c = true) (hd : isAsciiDigit d = true) :
    digitValue c < digitValue d ↔ c < d := by
  have hc := isAsciiDigit_iff.1 hc
  have hd := isAsciiDigit_iff.1 hd
  show c.toNat - 48 < d.toNat - 48 ↔ c.toNat < d.toNat
  omega

private theorem decimal_cons :
    decimal (c :: text) = decimal text + 10 ^ text.length * digitValue c := by
  simp [decimal, Nat.ofDigits_append]

private theorem decimal_lt (h : ∀ c ∈ text, isAsciiDigit c = true) :
    decimal text < 10 ^ text.length := by
  have hdigits : ∀ n ∈ text.reverse.map digitValue, n < 10 := by
    intro n hn
    obtain ⟨c, hc, rfl⟩ := List.mem_map.1 hn
    exact digitValue_lt (h c (List.mem_reverse.1 hc))
  have hlt := Nat.ofDigits_lt_base_pow_length (by norm_num) hdigits
  simpa [decimal] using hlt

private theorem decimal_lt_of_first (hx : ∀ c ∈ x, isAsciiDigit c = true)
    (hlength : x.length = y.length)
    (h : digitValue c < digitValue d) : decimal (c :: x) < decimal (d :: y) := by
  calc decimal (c :: x) = decimal x + 10 ^ x.length * digitValue c := decimal_cons
    _ < 10 ^ x.length + 10 ^ x.length * digitValue c := Nat.add_lt_add_right (decimal_lt hx) _
    _ = 10 ^ x.length * (digitValue c + 1) := by ring
    _ ≤ 10 ^ x.length * digitValue d := Nat.mul_le_mul_left _ h
    _ ≤ decimal y + 10 ^ y.length * digitValue d := by
      rw [hlength]
      exact Nat.le_add_left _ _
    _ = decimal (d :: y) := decimal_cons.symm

private theorem decimal_lt_iff_of_length (hx : ∀ c ∈ x, isAsciiDigit c = true)
    (hy : ∀ c ∈ y, isAsciiDigit c = true) (hlength : x.length = y.length) :
    decimal x < decimal y ↔ x < y := by
  induction x generalizing y with
  | nil =>
    obtain rfl := List.length_eq_zero_iff.1 hlength.symm
    simp
  | cons c x ih =>
    cases y with
    | nil => simp at hlength
    | cons d y =>
      obtain ⟨hc, hx⟩ := List.forall_mem_cons.1 hx
      obtain ⟨hd, hy⟩ := List.forall_mem_cons.1 hy
      have hrest : x.length = y.length := by simpa using hlength
      rw [List.cons_lt_cons_iff, ← ih hx hy hrest]
      rcases lt_trichotomy (digitValue c) (digitValue d) with hlt | heq | hgt
      · exact iff_of_true (decimal_lt_of_first hx hrest hlt)
          (Or.inl ((digitValue_lt_iff hc hd).1 hlt))
      · obtain rfl : c = d := by
          have hcd := (digitValue_lt_iff hc hd).not.1 heq.not_lt
          have hdc := (digitValue_lt_iff hd hc).not.1 heq.not_gt
          exact Char.le_antisymm (Char.not_lt.1 hdc) (Char.not_lt.1 hcd)
        rw [decimal_cons, decimal_cons, hrest, Nat.add_lt_add_iff_right]
        simp
      · have hdc := (digitValue_lt_iff hd hc).1 hgt
        refine iff_of_false (decimal_lt_of_first hy hrest.symm hgt).le.not_gt ?_
        rintro (hcd | ⟨rfl, -⟩)
        · exact Char.lt_asymm hcd hdc
        · exact Char.lt_irrefl c hdc

namespace IsNumeral

private theorem pow_le (h : IsNumeral (c :: text)) (htext : text ≠ []) :
    10 ^ text.length ≤ decimal (c :: text) := by
  obtain ⟨hc, -⟩ := List.forall_mem_cons.1 h.digit
  have hzero : c ≠ '0' := by
    rintro rfl
    exact htext (List.cons.inj (h.significant rfl)).2
  have hpos : 1 ≤ digitValue c := by
    have hne : c.toNat ≠ 48 := fun heq => hzero (Char.toNat_inj.1 heq)
    have hbounds := isAsciiDigit_iff.1 hc
    show 1 ≤ c.toNat - 48
    omega
  calc 10 ^ text.length = 10 ^ text.length * 1 := (Nat.mul_one _).symm
    _ ≤ 10 ^ text.length * digitValue c := Nat.mul_le_mul_left _ hpos
    _ ≤ decimal (c :: text) := decimal_cons.symm ▸ Nat.le_add_left _ _

private theorem decimal_lt_of_length (hx : IsNumeral x) (hy : IsNumeral y)
    (h : x.length < y.length) :
    decimal x < decimal y := by
  obtain ⟨d, y, rfl⟩ := List.exists_cons_of_ne_nil hy.nonempty
  have hpos := List.length_pos_iff.2 hx.nonempty
  rw [List.length_cons] at h
  have hmore : y ≠ [] := List.length_pos_iff.1 (by omega)
  calc decimal x < 10 ^ x.length := decimal_lt hx.digit
    _ ≤ 10 ^ y.length := Nat.pow_le_pow_right (by norm_num) (by omega)
    _ ≤ decimal (d :: y) := hy.pow_le hmore

theorem olderVersion_iff (hx : IsNumeral x) (hy : IsNumeral y) :
    olderVersion (some x) (some y) = true ↔ decimal x < decimal y := by
  have hopen : olderVersion (some x) (some y) = true
      ↔ x.length < y.length ∨ x.length = y.length ∧ x < y := by simp [olderVersion]
  rw [hopen]
  rcases lt_trichotomy x.length y.length with hlt | heq | hgt
  · exact iff_of_true (Or.inl hlt) (hx.decimal_lt_of_length hy hlt)
  · simp [heq, decimal_lt_iff_of_length hx.digit hy.digit heq]
  · have hmore := hy.decimal_lt_of_length hx hgt
    refine iff_of_false ?_ hmore.le.not_gt
    rintro (hlt | ⟨heq, -⟩) <;> omega

theorem eq_of_decimal_eq (hx : IsNumeral x) (hy : IsNumeral y) (h : decimal x = decimal y) :
    x = y := by
  have hxy : olderVersion (some x) (some y) = false := by
    rw [← Bool.not_eq_true, hx.olderVersion_iff hy]
    omega
  have hyx : olderVersion (some y) (some x) = false := by
    rw [← Bool.not_eq_true, hy.olderVersion_iff hx]
    omega
  exact Option.some.inj (olderVersion_total hxy hyx)

end IsNumeral

/-! ### The number in a text -/

/-- The number that a text ends with: what follows the characters before the first digit, if it
holds digits alone. -/
def numberIn? (text : Text) : Option Nat :=
  let digits := text.dropWhile fun c => !isAsciiDigit c
  if digits ≠ [] ∧ digits.all isAsciiDigit = true then some (decimal digits) else none

private def significant (digits : Text) : Text :=
  let significant := digits.dropWhile fun c => c == '0'
  if significant.isEmpty then ['0'] else significant

private theorem decimal_dropWhile_zero (digits : Text) :
    decimal (digits.dropWhile fun c => c == '0') = decimal digits := by
  induction digits with
  | nil => rfl
  | cons c digits ih =>
    by_cases hc : c = '0'
    · subst hc
      have hzero : decimal ('0' :: digits) = decimal digits := by simp [decimal_cons, digitValue]
      rw [hzero, ← ih]
      simp
    · simp [hc]

private theorem decimal_significant (digits : Text) :
    decimal (significant digits) = decimal digits := by
  rw [← decimal_dropWhile_zero digits, significant]
  split
  next hempty =>
    rw [List.isEmpty_iff.1 hempty]
    rfl
  · rfl

private theorem isNumeral_significant (h : ∀ c ∈ digits, isAsciiDigit c = true) :
    IsNumeral (significant digits) := by
  rw [significant]
  split
  · exact ⟨List.forall_mem_singleton.2 (by decide), by simp, fun _ => rfl⟩
  next hnonempty =>
    refine ⟨fun c hc =>
      h c ((List.dropWhile_sublist _).subset hc), by simpa using hnonempty, fun hzero => ?_⟩
    have hhead := List.head?_dropWhile_not (fun c => c == '0') digits
    rw [hzero] at hhead
    simp at hhead

private theorem digits?_eq (text : Text) :
    digits? text = if (text.dropWhile fun c => !isAsciiDigit c) ≠ []
        ∧ (text.dropWhile fun c => !isAsciiDigit c).all isAsciiDigit = true
      then some (significant (text.dropWhile fun c => !isAsciiDigit c)) else none := by
  unfold digits? significant
  generalize text.dropWhile (fun c => !isAsciiDigit c) = digits
  by_cases hnonempty : digits = []
  · simp [hnonempty]
  · by_cases hdigits : digits.all isAsciiDigit = true
    · rw [if_pos (And.intro hnonempty hdigits)]
      simp [hnonempty, hdigits]
    · simp [hnonempty, hdigits]

theorem map_decimal_digits? (text : Text) : (digits? text).map decimal = numberIn? text := by
  rw [digits?_eq, numberIn?]
  split
  · rw [Option.map_some, decimal_significant]
  · rfl

theorem isNumeral_of_digits? (h : digits? text = some digits) : IsNumeral digits := by
  rw [digits?_eq] at h
  split at h
  next hdigits =>
    obtain rfl := Option.some.inj h
    exact isNumeral_significant (List.all_eq_true.1 hdigits.2)
  · cases h

end GrammarBrew.Candidate
