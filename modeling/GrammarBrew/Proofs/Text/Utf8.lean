import GrammarBrew.Text.Utf8
import Mathlib.Data.List.Basic

/-!
Bytes that are read as text are the bytes of that text: a sequence of bytes stands for a character
in one way only.
-/

set_option autoImplicit false
set_option relaxedAutoImplicit false

namespace GrammarBrew.Text

variable {b code value low high : Nat} {bounds : List (Nat × Nat)} {bytes rest : Bytes} {c : Char}
  {first : UInt8} {text : Text}

/-! ### Sequences of bytes -/

private theorem takeFollowing_cons
    (h : takeFollowing value ((low, high) :: bounds) bytes = (some code, rest)) :
    ∃ next after, bytes = next :: after ∧ low ≤ next.toNat ∧ next.toNat ≤ high ∧
      takeFollowing (value * 64 + (next.toNat - 0x80)) bounds after = (some code, rest) := by
  cases bytes with
  | nil => simp [takeFollowing] at h
  | cons next after =>
    simp only [takeFollowing] at h
    split at h
    next hbounds => exact ⟨next, after, rfl, hbounds.1, hbounds.2, h⟩
    · simp at h

private theorem takeFollowing_nil (h : takeFollowing value [] bytes = (some code, rest)) :
    code = value ∧ bytes = rest := by
  simp only [takeFollowing, Prod.mk.injEq, Option.some.injEq] at h
  exact ⟨h.1.symm, h.2⟩

private theorem leadByte_cases (h : leadByte b = some (value, bounds)) :
    (b < 0x80 ∧ value = b ∧ bounds = []) ∨
      (0xc2 ≤ b ∧ b < 0xe0 ∧ value = b - 0xc0 ∧ bounds = [(0x80, 0xbf)]) ∨
      (∃ low high, 0xe0 ≤ b ∧ b < 0xf0 ∧ value = b - 0xe0 ∧ bounds = [(low, high), (0x80, 0xbf)] ∧
        0x80 ≤ low ∧ high ≤ 0xbf ∧ (b = 0xe0 → 0xa0 ≤ low) ∧ (b = 0xed → high ≤ 0x9f)) ∨
      ∃ low high, 0xf0 ≤ b ∧ b < 0xf5 ∧ value = b - 0xf0 ∧
        bounds = [(low, high), (0x80, 0xbf), (0x80, 0xbf)] ∧
        0x80 ≤ low ∧ high ≤ 0xbf ∧ (b = 0xf0 → 0x90 ≤ low) ∧ (b = 0xf4 → high ≤ 0x8f) := by
  simp only [leadByte] at h
  split_ifs at h <;> obtain ⟨rfl, rfl⟩ := Prod.mk.inj (Option.some.inj h)
  · exact Or.inl ⟨by omega, rfl, rfl⟩
  · exact Or.inr (Or.inl ⟨by omega, by omega, rfl, rfl⟩)
  · exact Or.inr (Or.inr (Or.inl ⟨0xa0, 0xbf, by omega, by omega, by omega, rfl, by omega⟩))
  · exact Or.inr (Or.inr (Or.inl ⟨0x80, 0x9f, by omega, by omega, by omega, rfl, by omega⟩))
  · exact Or.inr (Or.inr (Or.inl ⟨0x80, 0xbf, by omega, by omega, by omega, rfl, by omega⟩))
  · exact Or.inr (Or.inr (Or.inr ⟨0x90, 0xbf, by omega, by omega, by omega, rfl, by omega⟩))
  · exact Or.inr (Or.inr (Or.inr ⟨0x80, 0xbf, by omega, by omega, by omega, rfl, by omega⟩))
  · exact Or.inr (Or.inr (Or.inr ⟨0x80, 0x8f, by omega, by omega, by omega, rfl, by omega⟩))

/-! ### Characters -/

private theorem toNat_ofNat (h : code.isValidChar) : (Char.ofNat code).val.toNat = code := by
  rw [Char.ofNat, dif_pos h]
  rfl

private theorem ofNat_eq {n : Nat} (next : UInt8) (h : n = next.toNat) : UInt8.ofNat n = next := by
  rw [h, UInt8.ofNat_toNat]

private theorem utf8EncodeChar_of_takeChar (h : takeChar first bytes = (some c, rest)) :
    String.utf8EncodeChar c ++ rest = first :: bytes := by
  cases hlead : leadByte first.toNat with
  | none => simp [takeChar, hlead] at h
  | some shape =>
    obtain ⟨value, bounds⟩ := shape
    simp only [takeChar, hlead, Prod.mk.injEq, Option.map_eq_some_iff] at h
    obtain ⟨⟨code, hcode, rfl⟩, hrest⟩ := h
    have hfollowing : takeFollowing value bounds bytes = (some code, rest) := Prod.ext hcode hrest
    -- By the first byte: how many bytes follow it, and which bits of the code it holds.
    rcases leadByte_cases hlead with ⟨hb, hvalue, hbounds⟩ | ⟨hb, hb', hvalue, hbounds⟩ |
      ⟨low, high, hb, hb', hvalue, hbounds, hlow, hhigh, hleast, hmost⟩ |
      ⟨low, high, hb, hb', hvalue, hbounds, hlow, hhigh, hleast, hmost⟩
    · subst hbounds
      obtain ⟨hcode, rfl⟩ := takeFollowing_nil hfollowing
      have hvalid : code.isValidChar := Or.inl (by omega)
      simp only [String.utf8EncodeChar, toNat_ofNat hvalid]
      rw [if_pos (by omega), ofNat_eq first (by omega)]
      rfl
    · subst hbounds
      obtain ⟨second, bytes, rfl, hsecond, hsecond', hfollowing⟩ := takeFollowing_cons hfollowing
      obtain ⟨hcode, rfl⟩ := takeFollowing_nil hfollowing
      have hvalid : code.isValidChar := Or.inl (by omega)
      simp only [String.utf8EncodeChar, toNat_ofNat hvalid]
      rw [if_neg (by omega), if_pos (by omega), ofNat_eq first (by omega),
        ofNat_eq second (by omega)]
      rfl
    · subst hbounds
      obtain ⟨second, bytes, rfl, hsecond, hsecond', hfollowing⟩ := takeFollowing_cons hfollowing
      obtain ⟨third, bytes, rfl, hthird, hthird', hfollowing⟩ := takeFollowing_cons hfollowing
      obtain ⟨hcode, rfl⟩ := takeFollowing_nil hfollowing
      have hvalid : code.isValidChar := by
        rcases Nat.lt_or_ge 0xed first.toNat with hlarge | hsmall
        · exact Or.inr (by omega)
        · exact Or.inl (by omega)
      simp only [String.utf8EncodeChar, toNat_ofNat hvalid]
      rw [if_neg (by omega), if_neg (by omega), if_pos (by omega), ofNat_eq first (by omega),
        ofNat_eq second (by omega), ofNat_eq third (by omega)]
      rfl
    · subst hbounds
      obtain ⟨second, bytes, rfl, hsecond, hsecond', hfollowing⟩ := takeFollowing_cons hfollowing
      obtain ⟨third, bytes, rfl, hthird, hthird', hfollowing⟩ := takeFollowing_cons hfollowing
      obtain ⟨fourth, bytes, rfl, hfourth, hfourth', hfollowing⟩ := takeFollowing_cons hfollowing
      obtain ⟨hcode, rfl⟩ := takeFollowing_nil hfollowing
      have hvalid : code.isValidChar := Or.inr (by omega)
      simp only [String.utf8EncodeChar, toNat_ofNat hvalid]
      rw [if_neg (by omega), if_neg (by omega), if_neg (by omega), ofNat_eq first (by omega),
        ofNat_eq second (by omega), ofNat_eq third (by omega), ofNat_eq fourth (by omega)]
      rfl

/-! ### Texts -/

private theorem mapM_concat {seen : List (Option Char)} {c? : Option Char}
    (h : (seen ++ [c?]).mapM id = some text) :
    ∃ front c, seen.mapM id = some front ∧ c? = some c ∧ text = front ++ [c] := by
  simp only [List.mapM_append, List.mapM_cons, List.mapM_nil] at h
  cases hseen : seen.mapM id with
  | none => simp [hseen] at h
  | some front =>
    cases c? with
    | none => simp [hseen] at h
    | some c => exact ⟨front, c, rfl, rfl, by simpa [hseen, eq_comm] using h⟩

private theorem encode_of_readCharsFrom (seen : List (Option Char)) (bytes : Bytes)
    (h : (readCharsFrom seen bytes).mapM id = some text) :
    ∃ front back, seen.reverse.mapM id = some front ∧ text = front ++ back ∧
      encode back = bytes := by
  induction seen, bytes using readCharsFrom.induct generalizing text with
  | case1 seen =>
    rw [readCharsFrom] at h
    exact ⟨text, [], h, by simp, rfl⟩
  | case2 seen first bytes ih =>
    rw [readCharsFrom] at h
    obtain ⟨front, back, hfront, rfl, hback⟩ := ih h
    rw [List.reverse_cons] at hfront
    obtain ⟨front, c, hseen, hc, rfl⟩ := mapM_concat hfront
    refine ⟨front, c :: back, hseen, by simp, ?_⟩
    rw [encode, List.flatMap_cons, ← encode, hback]
    exact utf8EncodeChar_of_takeChar (Prod.ext hc rfl)

theorem encode_of_decode? (h : decode? bytes = some text) : encode text = bytes := by
  obtain ⟨front, back, hfront, rfl, hback⟩ := encode_of_readCharsFrom [] bytes h
  obtain rfl : front = [] := by simpa [eq_comm] using hfront
  exact hback

end GrammarBrew.Text
