import GrammarBrew.Document
import GrammarBrew.Matcher
import GrammarBrew.Proofs.Text.Blank

/-!
A text with other line breaks: a carriage return before every line feed. Both characters are blanks,
so trimming does not see the difference, and a mark that has no line break stands in the same
places.
-/

set_option autoImplicit false
set_option relaxedAutoImplicit false

namespace GrammarBrew

namespace Text

variable {c : Char} {text other front rest mark seen : Text}

/-- A text with a carriage return put before every line feed. -/
def crlf (text : Text) : Text := text.flatMap fun c => if c = '\n' then ['\r', '\n'] else [c]

def OneLine (text : Text) : Prop := '\r' ∉ text ∧ '\n' ∉ text

instance (text : Text) : Decidable (OneLine text) :=
  inferInstanceAs (Decidable ('\r' ∉ text ∧ '\n' ∉ text))

@[simp] theorem crlf_nil : crlf [] = [] := rfl

@[simp] theorem crlf_lineFeed : crlf ('\n' :: text) = '\r' :: '\n' :: crlf text := rfl

theorem crlf_cons (h : c ≠ '\n') : crlf (c :: text) = c :: crlf text := by
  simp [crlf, h]

@[simp] theorem crlf_append : crlf (front ++ rest) = crlf front ++ crlf rest := List.flatMap_append

theorem crlf_eq_self (h : '\n' ∉ text) : crlf text = text := by
  induction text with
  | nil => rfl
  | cons c text ih =>
    obtain ⟨hc, htext⟩ := not_or.1 (mt List.mem_cons.2 h)
    rw [crlf_cons (Ne.symm hc), ih htext]

@[simp] private theorem crlf_eq_nil_iff : crlf text = [] ↔ text = [] := by
  cases text with
  | nil => simp
  | cons c text =>
    by_cases hc : c = '\n'
    · subst hc
      simp
    · simp [crlf_cons hc]

@[simp] theorem isEmpty_crlf : (crlf text).isEmpty = text.isEmpty := by
  rw [Bool.eq_iff_iff, List.isEmpty_iff, List.isEmpty_iff, crlf_eq_nil_iff]

theorem crlf_ne_lineFeed_cons : crlf text ≠ '\n' :: other := by
  cases text with
  | nil => simp
  | cons c text =>
    by_cases hc : c = '\n'
    · subst hc
      simp
    · simp [crlf_cons hc, hc]

theorem crlf_injective : Function.Injective crlf := by
  intro text
  induction text with
  | nil =>
    intro other h
    exact (crlf_eq_nil_iff.1 h.symm).symm
  | cons c text ih =>
    intro other h
    cases other with
    | nil => exact absurd h (by simp)
    | cons d other =>
      by_cases hc : c = '\n'
      · subst hc
        by_cases hd : d = '\n'
        · subst hd
          simp only [crlf_lineFeed, List.cons.injEq, true_and] at h
          rw [ih h]
        · -- One of the two texts would go on with a line feed alone.
          rw [crlf_lineFeed, crlf_cons hd] at h
          exact absurd (List.cons.inj h).2.symm crlf_ne_lineFeed_cons
      · rw [crlf_cons hc] at h
        by_cases hd : d = '\n'
        · subst hd
          exact absurd (List.cons.inj h).2 crlf_ne_lineFeed_cons
        · rw [crlf_cons hd] at h
          obtain ⟨rfl, hrest⟩ := List.cons.inj h
          rw [ih hrest]

theorem eq_crlf_iff (h : '\n' ∉ text) : text = crlf other ↔ text = other :=
  calc
    text = crlf other ↔ crlf text = crlf other := by rw [crlf_eq_self h]
    _ ↔ text = other := crlf_injective.eq_iff

theorem getLast?_crlf : (crlf text).getLast? = text.getLast? := by
  rcases List.eq_nil_or_concat' text with rfl | ⟨front, c, rfl⟩
  · rfl
  · by_cases hc : c = '\n'
    · subst hc
      simp
    · simp [crlf_cons hc]

/-! ### Trimming -/

private theorem ne_lineFeed_of_not_isBlank (h : isBlank c = false) : c ≠ '\n' := by
  rintro rfl
  exact absurd h (by decide)

private theorem allBlank_crlf : AllBlank (crlf text) ↔ AllBlank text := by
  have hbreak : isBlank '\r' = true ∧ isBlank '\n' = true := by decide
  induction text with
  | nil => rfl
  | cons c text ih =>
    by_cases hc : c = '\n'
    · subst hc
      simp [hbreak, ih]
    · simp [crlf_cons hc, ih]

@[simp] private theorem trimStart_crlf : trimStart (crlf text) = crlf (trimStart text) := by
  induction text with
  | nil => rfl
  | cons c text ih =>
    by_cases hc : isBlank c = true
    · have hone : AllBlank [c] := by simpa using hc
      have hskip : trimStart (crlf [c] ++ crlf text) = trimStart (crlf text) :=
        trimStart_append_of_allBlank (allBlank_crlf.2 hone)
      have htrim : trimStart ([c] ++ text) = trimStart text := trimStart_append_of_allBlank hone
      rw [← List.singleton_append, crlf_append, hskip, htrim, ih]
    · have hline : c ≠ '\n' := ne_lineFeed_of_not_isBlank (by simpa using hc)
      have hkept : ∀ rest, trimStart (c :: rest) = c :: rest :=
        fun rest => List.dropWhile_cons_of_neg hc
      rw [crlf_cons hline, hkept, hkept, crlf_cons hline]

@[simp] theorem trimEnd_crlf : trimEnd (crlf text) = crlf (trimEnd text) := by
  induction text using List.reverseRecOn with
  | nil => rfl
  | append_singleton text c ih =>
    by_cases hc : isBlank c = true
    · have hone : AllBlank [c] := by simpa using hc
      rw [crlf_append, trimEnd_append_of_allBlank (allBlank_crlf.2 hone), ih,
        trimEnd_append_of_allBlank hone]
    · have hkept : isBlank c = false := by simpa using hc
      have hline : crlf [c] = [c] := crlf_cons (ne_lineFeed_of_not_isBlank hkept)
      rw [crlf_append, hline, trimEnd_append_singleton hkept, trimEnd_append_singleton hkept,
        crlf_append, hline]

@[simp] theorem trim_crlf : trim (crlf text) = crlf (trim text) := by
  rw [trim, trimStart_crlf, trimEnd_crlf, trim]

/-! ### Marks without line breaks -/

private theorem oneLine_cons : OneLine (c :: text) ↔ c ≠ '\r' ∧ c ≠ '\n' ∧ OneLine text := by
  simp only [OneLine, List.mem_cons, not_or, ne_comm]
  tauto

theorem isPrefixOf?_crlf (h : OneLine mark) :
    mark.isPrefixOf? (crlf text) = (mark.isPrefixOf? text).map crlf := by
  induction mark generalizing text with
  | nil => rfl
  | cons m mark ih =>
    obtain ⟨hreturn, hfeed, hmark⟩ := oneLine_cons.1 h
    cases text with
    | nil => rfl
    | cons c text =>
      by_cases hc : c = '\n'
      · subst hc
        simp [List.isPrefixOf?, hreturn, hfeed]
      · rw [crlf_cons hc]
        simp only [List.isPrefixOf?]
        split
        · exact ih hmark
        · rfl

theorem isPrefixOf?_lineBreak (h : OneLine mark) (hmark : mark ≠ []) :
    mark.isPrefixOf? ('\r' :: text) = none ∧ mark.isPrefixOf? ('\n' :: text) = none := by
  obtain ⟨m, mark, rfl⟩ := List.exists_cons_of_ne_nil hmark
  obtain ⟨hreturn, hfeed, -⟩ := oneLine_cons.1 h
  simp [List.isPrefixOf?, hreturn, hfeed]

private theorem cutFrom_crlf (h : OneLine mark) (hmark : mark ≠ []) :
    cutFrom mark (crlf seen.reverse).reverse (crlf text)
      = (cutFrom mark seen text).map (Prod.map crlf crlf) := by
  induction text generalizing seen with
  | nil => simp [cutFrom, hmark]
  | cons c text ih =>
    by_cases hc : c = '\n'
    · subst hc
      have hseen : '\n' :: '\r' :: (crlf seen.reverse).reverse
          = (crlf ('\n' :: seen).reverse).reverse := by
        simp
      rw [crlf_lineFeed, cutFrom, (isPrefixOf?_lineBreak h hmark).1]
      simp only
      rw [cutFrom, (isPrefixOf?_lineBreak h hmark).2]
      simp only
      rw [hseen, ih, cutFrom, (isPrefixOf?_lineBreak h hmark).2]
    · have hseen : c :: (crlf seen.reverse).reverse = (crlf (c :: seen).reverse).reverse := by
        simp [crlf_cons hc]
      have hprefix : mark.isPrefixOf? (c :: crlf text)
          = (mark.isPrefixOf? (c :: text)).map crlf := by
        rw [← crlf_cons hc, isPrefixOf?_crlf h]
      rw [crlf_cons hc, cutFrom, hprefix, cutFrom]
      cases mark.isPrefixOf? (c :: text) with
      | none =>
        simp only [Option.map_none]
        rw [hseen, ih]
      | some after => simp

theorem cut_crlf (h : OneLine mark) (hmark : mark ≠ []) :
    cut mark (crlf text) = (cut mark text).map (Prod.map crlf crlf) := by
  have hstart : cutFrom mark (crlf [].reverse).reverse (crlf text)
      = (cutFrom mark [] text).map (Prod.map crlf crlf) := cutFrom_crlf h hmark
  exact hstart

theorem join_crlf (separator : Text) (parts : List Text) :
    join (crlf separator) (parts.map crlf) = crlf (join separator parts) := by
  induction parts with
  | nil => rfl
  | cons part parts ih =>
    cases parts with
    | nil => simp [join, List.intercalate]
    | cons next parts =>
      have hjoin : ∀ (mark first second : Text) (others : List Text),
          join mark (first :: second :: others) = first ++ mark ++ join mark (second :: others) :=
        fun _ _ _ _ => List.intercalate_cons_cons
      rw [hjoin, crlf_append, crlf_append, ← ih]
      exact hjoin _ _ _ _

end Text

namespace Document

variable {separator text : Text}

theorem split_crlf (h : Text.OneLine separator) :
    split separator (Text.crlf text)
      = ⟨Text.crlf (split separator text).body,
        (split separator text).declarations?.map Text.crlf⟩ := by
  unfold split
  by_cases hempty : separator = []
  · simp [hempty, plain]
  · simp only [List.isEmpty_iff, hempty, if_false]
    rw [Text.cut_crlf h hempty]
    cases Text.cut separator text with
    | none => simp [plain]
    | some parts =>
      obtain ⟨body, rest⟩ := parts
      simp only [Option.map_some, Prod.map]
      rw [Text.cut_crlf h hempty]
      cases Text.cut separator rest with
      | none => rfl
      | some others => rfl

end Document

end GrammarBrew
