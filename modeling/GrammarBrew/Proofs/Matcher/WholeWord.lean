import GrammarBrew.Proofs.Matcher.Occurrence
import GrammarBrew.Proofs.Text.Words

/-!
A name of word characters, matched with word boundaries, stands exactly where a whole word of the
text is the name. All its occurrences are replaced word by word.
-/

set_option autoImplicit false
set_option relaxedAutoImplicit false

namespace GrammarBrew

/-- Every character counts as a word character in both senses: for the edges of names and for
words. -/
def Text.IsIdentifier (name : Text) : Prop :=
  ∀ c ∈ name, Text.isWord c = true ∧ Text.isNameChar c = true

instance (name : Text) : Decidable name.IsIdentifier :=
  List.decidableBAll (fun c => Text.isWord c = true ∧ Text.isNameChar c = true) name

namespace Matcher

open Text

variable {name value text rest : Text} {before : Option Char}

private theorem ofName_identifier (hname : name ≠ []) (hid : IsIdentifier name) :
    ofName .wordBoundary name = ⟨name, true, true⟩ := by
  have hhead : name.head?.any isNameChar = true := by
    rw [List.head?_eq_some_head hname]
    exact (hid _ (List.head_mem hname)).2
  have hlast : name.getLast?.any isNameChar = true := by
    rw [List.getLast?_eq_some_getLast hname]
    exact (hid _ (List.getLast_mem hname)).2
  simp [ofName, hhead, hlast]

private theorem any_isWord_head? (hname : name ≠ []) (hid : IsIdentifier name) :
    (name ++ rest).head?.any isWord = true := by
  rw [List.head?_append_of_ne_nil _ hname, List.head?_eq_some_head hname]
  exact (hid _ (List.head_mem hname)).1

private theorem any_isWord_getLast? (hname : name ≠ []) (hid : IsIdentifier name) :
    name.getLast?.any isWord = true := by
  rw [List.getLast?_eq_some_getLast hname]
  exact (hid _ (List.getLast_mem hname)).1

private theorem matchHere?_identifier (hname : name ≠ []) (hid : IsIdentifier name) :
    (ofName .wordBoundary name).matchHere? before text = some rest ↔
      text = name ++ rest ∧ before.any isWord = false ∧ BeginsApart rest := by
  rw [matchHere?_eq_some_iff, ofName_identifier hname hid]
  refine and_congr_right fun htext => ?_
  subst htext
  simp only [isBoundary, any_isWord_head? hname hid, any_isWord_getLast? hname hid]
  cases rest <;> simp

theorem isWholeWord_of_identifier (hname : name ≠ []) (hid : IsIdentifier name) :
    IsWholeWord name :=
  ⟨hname, fun c hc => (hid c hc).1⟩

private theorem matchHere?_within (hname : name ≠ []) (hid : IsIdentifier name)
    (hbefore : before.any isWord = true) :
    (ofName .wordBoundary name).matchHere? before text = none := by
  cases h : (ofName .wordBoundary name).matchHere? before text with
  | none => rfl
  | some rest =>
    have := ((matchHere?_identifier hname hid).1 h).2.1
    simp [hbefore] at this

private theorem replaceFrom_within (hname : name ≠ []) (hid : IsIdentifier name) {word : Text}
    (hword : ∀ c ∈ word, isWord c = true) (hbefore : before.any isWord = true) :
    (ofName .wordBoundary name).replaceFrom value before (word ++ rest)
      = word ++ (ofName .wordBoundary name).replaceFrom value (word.getLast?.or before) rest := by
  have named : (ofName .wordBoundary name).name ≠ [] := by simpa using hname
  induction word generalizing before with
  | nil => simp
  | cons c word ih =>
    obtain ⟨hc, hothers⟩ := List.forall_mem_cons.1 hword
    rw [List.cons_append, replaceFrom_miss named (matchHere?_within hname hid hbefore),
      ih hothers (by simpa using hc), getLast?_cons_or]
    rfl

private theorem wholeWord_unique {word other after : Text} (hword : IsWholeWord word)
    (hother : IsWholeWord other) (hrest : BeginsApart rest) (hafter : BeginsApart after)
    (heq : word ++ rest = other ++ after) : word = other := by
  have hruns := congrArg runs heq
  rw [runs_word_append hword hrest, runs_word_append hother hafter] at hruns
  exact (List.cons.inj hruns).1

private theorem replaceFrom_identifier (hname : name ≠ []) (hid : IsIdentifier name)
    (hbefore : before.any isWord = false ∨ BeginsApart text) :
    (ofName .wordBoundary name).replaceFrom value before text
      = mapRuns (fun run => if run = name then value else run) text := by
  have named : (ofName .wordBoundary name).name ≠ [] := by simpa using hname
  have hwhole := isWholeWord_of_identifier hname hid
  -- Word by word: between words no occurrence begins, and one that begins with a word is that word.
  induction text using runsInduction generalizing before with
  | nil => simp [mapRuns]
  | apart c text hc ih =>
    have hne : [c] ≠ name := by
      rintro rfl
      simp [hwhole.2 c (by simp)] at hc
    have hmiss : (ofName .wordBoundary name).matchHere? before (c :: text) = none := by
      cases h : (ofName .wordBoundary name).matchHere? before (c :: text) with
      | none => rfl
      | some rest =>
        obtain ⟨htext, -, -⟩ := (matchHere?_identifier hname hid).1 h
        obtain ⟨d, others, rfl⟩ := List.exists_cons_of_ne_nil hname
        obtain ⟨rfl, -⟩ := List.cons.inj htext
        simp [hwhole.2 c (by simp)] at hc
    rw [replaceFrom_miss named hmiss, ih (Or.inl (by simpa using hc)), mapRuns_cons_apart hc,
      if_neg hne]
    rfl
  | word word rest hword hrest ih =>
    have hstart := hbefore.resolve_right (not_beginsApart_word_append hword)
    rw [mapRuns_word_append hword hrest]
    obtain ⟨c, others, rfl⟩ := List.exists_cons_of_ne_nil hword.1
    by_cases heq : c :: others = name
    · have hhit : (ofName .wordBoundary name).matchHere? before (c :: (others ++ rest))
          = some rest :=
        (matchHere?_identifier hname hid).2 ⟨by rw [← heq, List.cons_append], hstart, hrest⟩
      rw [if_pos heq, List.cons_append, replaceFrom_hit named hhit, ih (Or.inr hrest)]
    · have hmiss : (ofName .wordBoundary name).matchHere? before (c :: (others ++ rest))
          = none := by
        cases h : (ofName .wordBoundary name).matchHere? before (c :: (others ++ rest)) with
        | none => rfl
        | some after =>
          obtain ⟨htext, -, hafter⟩ := (matchHere?_identifier hname hid).1 h
          exact absurd (wholeWord_unique hword hwhole hrest hafter htext) heq
      obtain ⟨hc, hothers⟩ := List.forall_mem_cons.1 hword.2
      rw [if_neg heq, List.cons_append, replaceFrom_miss named hmiss,
        replaceFrom_within hname hid hothers (by simpa using hc), ih (Or.inr hrest)]
      rfl

theorem replace_identifier (hname : name ≠ []) (hid : IsIdentifier name) :
    (ofName .wordBoundary name).replace value text
      = mapRuns (fun run => if run = name then value else run) text :=
  replaceFrom_identifier hname hid (Or.inl rfl)

private theorem occursAfter_of_mem_runs (hname : name ≠ []) (hid : IsIdentifier name)
    (hbefore : before.any isWord = false ∨ BeginsApart text) (hmem : name ∈ runs text) :
    (ofName .wordBoundary name).OccursAfter before text := by
  have hwhole := isWholeWord_of_identifier hname hid
  induction text using runsInduction generalizing before with
  | nil => simp at hmem
  | apart c text hc ih =>
    rw [runs_cons_apart hc] at hmem
    rcases List.mem_cons.1 hmem with rfl | hmem
    · simp [hwhole.2 c (by simp)] at hc
    · exact occursAfter_cons.2 (Or.inr (ih (Or.inl (by simpa using hc)) hmem))
  | word word rest hword hrest ih =>
    rw [runs_word_append hword hrest] at hmem
    rcases List.mem_cons.1 hmem with rfl | hmem
    · refine ⟨[], name ++ rest, rfl, ?_⟩
      have hstart := hbefore.resolve_right (not_beginsApart_word_append hword)
      have hhere : (ofName .wordBoundary name).matchHere? before (name ++ rest) = some rest :=
        (matchHere?_identifier hname hid).2 ⟨rfl, hstart, hrest⟩
      simpa using Option.isSome_of_eq_some hhere
    · exact (ih (Or.inr hrest) hmem).append

theorem occurs_identifier_iff (hname : name ≠ []) (hid : IsIdentifier name) :
    (ofName .wordBoundary name).Occurs text ↔ name ∈ runs text := by
  constructor
  · rintro ⟨passed, ahead, rfl, hhit⟩
    obtain ⟨rest, hrest⟩ := Option.isSome_iff_exists.1 hhit
    obtain ⟨rfl, hpassed, hapart⟩ := (matchHere?_identifier hname hid).1 hrest
    have hends : EndsApart passed := by
      intro c hc
      simpa [Option.mem_def.1 hc] using hpassed
    rw [runs_append_of_endsApart hends,
      runs_word_append (isWholeWord_of_identifier hname hid) hapart]
    simp
  · intro hmem
    exact occurs_iff.2 (occursAfter_of_mem_runs hname hid (Or.inl rfl) hmem)

end Matcher

end GrammarBrew
