import GrammarBrew.Proofs.Expansion.Pass
import GrammarBrew.Proofs.Matcher.Leftmost

/-!
What it means for a name to stand alone in a text, and where whole words are rewritten. Whether an
edge of a name is the edge of a word is asked of name characters, whether a word ends there of word
characters. Where the two notions agree at the edges, what is rewritten is the leftmost places at
which the name stands alone; no name with such an edge is rewritten so in every text.
-/

set_option autoImplicit false
set_option relaxedAutoImplicit false

namespace GrammarBrew

namespace Text

variable {c : Char} {name text : Text}

/-- The name stands at a place of a text and is not part of a longer word: where it begins or ends
with a name character, its neighbour is none. -/
def StandsAlone (name text : Text) (i : Nat) : Prop :=
  ∃ front rest, text = front ++ name ++ rest ∧ front.length = i ∧
    (name.head?.any isNameChar = true → front.getLast?.any isNameChar = false) ∧
    (name.getLast?.any isNameChar = true → rest.head?.any isNameChar = false)

/-- The name stands at a place of a text, with nothing but blanks or the ends of the text next to
it. -/
def StandsBetweenBlanks (name text : Text) (i : Nat) : Prop :=
  ∃ front rest, text = front ++ name ++ rest ∧ front.length = i ∧
    front.getLast?.all isBlank = true ∧ rest.head?.all isBlank = true

/-- The edges of a name that are name characters are word characters too. -/
structure EdgesAreWords (name : Text) : Prop where
  start : name.head?.any isNameChar = true → name.head?.any isWord = true
  finish : name.getLast?.any isNameChar = true → name.getLast?.any isWord = true

/-- Next to each place where the name stands, characters are word characters if they are name
characters. -/
def NeighboursAgree (name text : Text) : Prop :=
  ∀ front rest, text = front ++ name ++ rest →
    (name.head?.any isNameChar = true → front.getLast?.any isWord = front.getLast?.any isNameChar) ∧
    (name.getLast?.any isNameChar = true → rest.head?.any isWord = rest.head?.any isNameChar)

private theorem exists_run_of_inRuns {runs : List (Nat × Nat)} {n : Nat}
    (h : inRuns runs n = true) :
    ∃ run ∈ runs, run.1 ≤ n ∧ n ≤ run.2 := by
  induction runs with
  | nil => simp [inRuns] at h
  | cons run runs ih =>
    obtain ⟨hfirst, hrest⟩ : run.1 ≤ n ∧ (n ≤ run.2 ∨ inRuns runs n = true) := by
      simpa [inRuns] using h
    rcases hrest with hlast | hlater
    · exact ⟨run, by simp, hfirst, hlast⟩
    · obtain ⟨other, hother, hbounds⟩ := ih hlater
      exact ⟨other, List.mem_cons_of_mem run hother, hbounds⟩

private theorem neighboursAgree_of_forall (h : ∀ c ∈ text, isWord c = isNameChar c) :
    NeighboursAgree name text := by
  have hsame : ∀ c? : Option Char, (∀ c ∈ c?, c ∈ text) → c?.any isWord = c?.any isNameChar := by
    rintro (_ | c) hc
    · rfl
    · exact h c (hc c rfl)
  rintro front rest rfl
  refine ⟨fun _ => hsame _ fun c hc => ?_, fun _ => hsame _ fun c hc => ?_⟩
  · simp [List.mem_of_getLast? hc]
  · simp [List.mem_of_head? hc]

private theorem isWord_of_isBlank (h : isBlank c = true) : isWord c = false := by
  have hpoints : ∀ run ∈ blankRuns, ∀ k < run.2 + 1 - run.1, inRuns wordRuns (run.1 + k)
      = false := by
    decide +kernel
  obtain ⟨run, hrun, hfirst, hlast⟩ := exists_run_of_inRuns h
  have hpoint := hpoints run hrun (c.toNat - run.1) (by omega)
  rwa [Nat.add_sub_cancel' hfirst] at hpoint

end Text

namespace Matcher

open Text

variable {name rest text : Text} {i : Nat}

/-! ### Where a whole word stands -/

private theorem isBoundary_right {before after : Option Char} (h : after.any isWord = true) :
    isBoundary before after = true ↔ before.any isWord = false := by
  simp [isBoundary, h]

private theorem isBoundary_left {before after : Option Char} (h : before.any isWord = true) :
    isBoundary before after = true ↔ after.any isWord = false := by
  simp [isBoundary, h]

private theorem standsAt_wordBoundary_iff (edges : EdgesAreWords name) :
    (ofName .wordBoundary name).StandsAt text i ↔
      ∃ front rest, text = front ++ name ++ rest ∧ front.length = i ∧
        (name.head?.any isNameChar = true → front.getLast?.any isWord = false) ∧
        (name.getLast?.any isNameChar = true → rest.head?.any isWord = false) := by
  refine exists_congr fun front => exists_congr fun rest => ?_
  have hstart : (name.head?.any isNameChar = true → isBoundary front.getLast? name.head? = true)
      ↔ (name.head?.any isNameChar = true → front.getLast?.any isWord = false) :=
    forall_congr' fun hguards => isBoundary_right (edges.start hguards)
  have hend : (name.getLast?.any isNameChar = true → isBoundary name.getLast? rest.head? = true)
      ↔ (name.getLast?.any isNameChar = true → rest.head?.any isWord = false) :=
    forall_congr' fun hguards => isBoundary_left (edges.finish hguards)
  rw [← hstart, ← hend]
  rfl

private theorem standsAt_iff_standsAlone (edges : EdgesAreWords name)
    (neighbours : NeighboursAgree name text) :
    (ofName .wordBoundary name).StandsAt text i ↔ StandsAlone name text i := by
  rw [standsAt_wordBoundary_iff edges]
  refine exists_congr fun front => exists_congr fun rest => and_congr_right fun htext => ?_
  obtain ⟨hfront, hrest⟩ := neighbours front rest htext
  have hstart : (name.head?.any isNameChar = true → front.getLast?.any isWord = false)
      ↔ (name.head?.any isNameChar = true → front.getLast?.any isNameChar = false) :=
    forall_congr' fun hguards => by rw [hfront hguards]
  have hend : (name.getLast?.any isNameChar = true → rest.head?.any isWord = false)
      ↔ (name.getLast?.any isNameChar = true → rest.head?.any isNameChar = false) :=
    forall_congr' fun hguards => by rw [hrest hguards]
  rw [hstart, hend]

private theorem standsAt_of_standsBetweenBlanks (edges : EdgesAreWords name)
    (h : StandsBetweenBlanks name text i) : (ofName .wordBoundary name).StandsAt text i := by
  have hblank : ∀ c? : Option Char, c?.all isBlank = true → c?.any isWord = false := by
    rintro (_ | c) hc
    · rfl
    · exact isWord_of_isBlank hc
  obtain ⟨front, rest, htext, hplace, hfront, hrest⟩ := h
  exact (standsAt_wordBoundary_iff edges).2
    ⟨front, rest, htext, hplace, fun _ => hblank _ hfront, fun _ => hblank _ hrest⟩

private theorem eq_of_reaches (blankless : ∀ c ∈ name, isBlank c = false)
    (h : StandsBetweenBlanks name text i) {j : Nat} (hj : OccursAt name text j) (hle : j ≤ i)
    (hover : i < j + name.length) : j = i := by
  obtain ⟨front, rest, rfl, rfl, hfront, -⟩ := h
  obtain ⟨left, right, htext, rfl⟩ := hj
  by_contra hne
  -- The blank before the name would be a character of the name that reaches over it.
  rw [List.append_assoc, List.append_assoc] at htext
  have hprefix : left <+: front :=
    List.prefix_of_prefix_length_le ⟨_, htext.symm⟩ (List.prefix_append _ _) hle
  obtain ⟨between, rfl⟩ := hprefix
  rw [List.append_assoc, List.append_cancel_left_eq] at htext
  rw [List.length_append] at hover hne
  have hinside : between <+: name :=
    List.prefix_of_prefix_length_le ⟨_, htext⟩ (List.prefix_append _ _) (by omega)
  have hbetween : between ≠ [] := by
    rintro rfl
    exact hne rfl
  have hmem := List.getLast_mem hbetween
  have hblank : isBlank (between.getLast hbetween) = true := by
    rwa [List.getLast?_append_of_ne_nil left hbetween, List.getLast?_eq_some_getLast hbetween]
      at hfront
  rw [blankless _ (hinside.subset hmem)] at hblank
  cases hblank

private theorem mem_places_of_standsBetweenBlanks (named : name ≠ []) (edges : EdgesAreWords name)
    (blankless : ∀ c ∈ name, isBlank c = false) (h : StandsBetweenBlanks name text i) :
    i ∈ (ofName .wordBoundary name).places text := by
  have hleftmost := leftmost_places_ofName named .wordBoundary text
  obtain ⟨j, hj, hle, hover⟩ := hleftmost.reach i (standsAt_of_standsBetweenBlanks edges h)
  obtain ⟨front, rest, htext, hplace, -⟩ := hleftmost.stand j hj
  obtain rfl : j = i := eq_of_reaches blankless h ⟨front, rest, htext, hplace⟩ hle hover
  exact hj

/-! ### Names that are rewritten where they stand alone in every text -/

private theorem standsAt_zero_iff : (ofName .wordBoundary name).StandsAt (name ++ rest) 0 ↔
    (name.head?.any isNameChar = true → isBoundary none name.head? = true) ∧
      (name.getLast?.any isNameChar = true → isBoundary name.getLast? rest.head? = true) := by
  constructor
  · rintro ⟨front, after, htext, hplace, hbegins, hends⟩
    obtain rfl := List.length_eq_zero_iff.1 hplace
    obtain rfl : rest = after := by simpa using htext
    exact ⟨hbegins, hends⟩
  · rintro ⟨hbegins, hends⟩
    exact ⟨[], rest, rfl, rfl, hbegins, hends⟩

private theorem edgesAreWords_of_standsAt (h : (ofName .wordBoundary name).StandsAt name 0) :
    EdgesAreWords name := by
  have hzero : (ofName .wordBoundary name).StandsAt (name ++ []) 0 := by rwa [List.append_nil]
  obtain ⟨hstart, hend⟩ := standsAt_zero_iff.1 hzero
  exact ⟨by simpa [isBoundary] using hstart, by simpa [isBoundary] using hend⟩

private theorem superscript : isNameChar '²' = true ∧ isWord '²' = false := by decide

private theorem not_alone_before_superscript (h : StandsAlone name (name ++ ['²']) 0) :
    name.getLast?.any isNameChar = false := by
  obtain ⟨front, rest, htext, hplace, -, hend⟩ := h
  obtain rfl := List.length_eq_zero_iff.1 hplace
  obtain rfl : ['²'] = rest := by simpa using htext
  have hname : ¬ name.getLast?.any isNameChar = true := by simpa [superscript.1] using hend
  exact Bool.not_eq_true _ ▸ hname

private theorem not_alone_after_superscript (h : StandsAlone name ('²' :: name) 1) :
    name.head?.any isNameChar = false := by
  obtain ⟨front, rest, htext, hplace, hstart, -⟩ := h
  obtain ⟨c, rfl⟩ := List.length_eq_one_iff.1 hplace
  obtain rfl : '²' = c := by
    rw [List.append_assoc] at htext
    exact (List.cons.inj htext).1
  have hname : ¬ name.head?.any isNameChar = true := by simpa [superscript.1] using hstart
  exact Bool.not_eq_true _ ▸ hname

private theorem forall_leftmost_standsAlone_iff (named : name ≠ []) :
    (∀ text, Leftmost (StandsAlone name text) name.length ((ofName .wordBoundary name).places text))
      ↔ name.head?.any isNameChar = false ∧ name.getLast?.any isNameChar = false := by
  have hreal := leftmost_places_ofName named .wordBoundary
  constructor
  · intro h
    -- A name of which an edge is no word is not rewritten where it is the whole text.
    have hwhole : StandsAlone name name 0 := ⟨[], [], by simp, rfl, by simp, by simp⟩
    have edges := edgesAreWords_of_standsAt ((hreal name).stand 0 ((h name).zero_mem hwhole))
    refine ⟨?_, ?_⟩
    · by_contra hguards
      have hguards : name.head?.any isNameChar = true := by simpa using hguards
      have hstands : (ofName .wordBoundary name).StandsAt ('²' :: name) 1 :=
        (standsAt_wordBoundary_iff edges).2
          ⟨['²'], [], by simp, rfl, by simp [superscript.2], by simp⟩
      obtain ⟨j, hj, hle, -⟩ := (hreal _).reach 1 hstands
      obtain rfl | rfl : j = 0 ∨ j = 1 := by omega
      · obtain ⟨front, rest, htext, hplace, -⟩ := (hreal _).stand 0 hj
        obtain rfl := List.length_eq_zero_iff.1 hplace
        obtain ⟨c, others, rfl⟩ := List.exists_cons_of_ne_nil named
        obtain rfl : '²' = c := (List.cons.inj htext).1
        have hword := edges.start hguards
        simp [superscript.2] at hword
      · rw [not_alone_after_superscript ((h _).stand 1 hj)] at hguards
        cases hguards
    · by_contra hguards
      have hguards : name.getLast?.any isNameChar = true := by simpa using hguards
      have hstands : (ofName .wordBoundary name).StandsAt (name ++ ['²']) 0 :=
        (standsAt_wordBoundary_iff edges).2 ⟨[], ['²'], rfl, rfl, by simp, by simp [superscript.2]⟩
      have hmem := (hreal _).zero_mem hstands
      rw [not_alone_before_superscript ((h _).stand 0 hmem)] at hguards
      cases hguards
  · rintro ⟨hstart, hend⟩ text
    have edges : EdgesAreWords name := ⟨by simp [hstart], by simp [hend]⟩
    have neighbours : NeighboursAgree name text := by simp [NeighboursAgree, hstart, hend]
    exact (hreal text).congr fun i => standsAt_iff_standsAlone edges neighbours

end Matcher

namespace Rule

open Text

variable {name value : Text} {rule : Rule}

/-- What one rule with whole words does to a text. It puts the value in the place of the name at the
leftmost places that do not overlap and at which the name stands between boundaries of words, and
reports how many they are. These are the leftmost places at which the name stands alone if its edges
are words and its neighbours agree, and a name without blanks whose edges are words is rewritten
wherever it stands between blanks. For every text they are those places only if no edge of the name
is a name character. -/
theorem run_wordBoundary (named : name ≠ [])
    (compiled : ofMacro .wordBoundary name value = .ok rule) :
    (∀ text,
      RewrittenAt name value (rule.matcher.places text) text (Pass.run [rule] text).text ∧
      (Pass.run [rule] text).substitutions
        = (if rule.matcher.places text = [] then []
          else [⟨name, (rule.matcher.places text).length⟩]) ∧
      Leftmost (rule.matcher.StandsAt text) name.length (rule.matcher.places text) ∧
      (EdgesAreWords name → NeighboursAgree name text →
        Leftmost (StandsAlone name text) name.length (rule.matcher.places text)) ∧
      (EdgesAreWords name → (∀ c ∈ name, isBlank c = false) →
        ∀ i, StandsBetweenBlanks name text i → i ∈ rule.matcher.places text)) ∧
    ((∀ text, Leftmost (StandsAlone name text) name.length (rule.matcher.places text))
      ↔ name.head?.any isNameChar = false ∧ name.getLast?.any isNameChar = false) := by
  obtain rfl := ofMacro_eq_ok compiled
  refine ⟨fun text => ?_, Matcher.forall_leftmost_standsAlone_iff named⟩
  have hreal := Matcher.leftmost_places_ofName named .wordBoundary text
  have hmatcher : (ofEntry .wordBoundary (name, value)).matcher.name ≠ [] := named
  rw [Pass.run_singleton hmatcher, ← Matcher.length_places]
  refine ⟨Matcher.rewrittenAt_places hmatcher value text, ?_, hreal, ?_, ?_⟩
  · simp only [List.length_eq_zero_iff]
    rfl
  · intro edges neighbours
    exact hreal.congr fun i => Matcher.standsAt_iff_standsAlone edges neighbours
  · intro edges blankless i hi
    exact Matcher.mem_places_of_standsBetweenBlanks named edges blankless hi

/-- A name between blanks, at the end of the text and in a longer word. -/
theorem conditional_run :
    let text := ['I', 'F', ' ', 'I', 'F', 'S', ' ', 'I', 'F']
    ∃ rule, ofMacro .wordBoundary ['I', 'F'] ['x'] = .ok rule ∧ rule.matcher.places text = [0, 7] ∧
      Leftmost (StandsAlone ['I', 'F'] text) 2 [0, 7] ∧
      RewrittenAt ['I', 'F'] ['x'] [0, 7] text ['x', ' ', 'I', 'F', 'S', ' ', 'x'] := by
  intro text
  obtain ⟨compiled, hplaces, htext⟩ :
      ofMacro .wordBoundary ['I', 'F'] ['x'] = .ok (ofEntry .wordBoundary (['I', 'F'], ['x'])) ∧
      (ofEntry .wordBoundary (['I', 'F'], ['x'])).matcher.places text = [0, 7] ∧
      (Pass.run [ofEntry .wordBoundary (['I', 'F'], ['x'])] text).text
        = ['x', ' ', 'I', 'F', 'S', ' ', 'x'] := by decide +kernel
  have agree : text.all (fun c => isWord c == isNameChar c) = true := by decide
  have same : ∀ c ∈ text, isWord c = isNameChar c := fun c hc =>
    eq_of_beq (List.all_eq_true.1 agree c hc)
  have edges : EdgesAreWords ['I', 'F'] := by
    have hfirst := same 'I' (by simp [text])
    have hlast := same 'F' (by simp [text])
    exact ⟨by simp [hfirst], by simp [hlast]⟩
  obtain ⟨hrewritten, -, -, halone, -⟩ := (run_wordBoundary (by simp) compiled).1 text
  rw [hplaces] at hrewritten halone
  rw [htext] at hrewritten
  exact ⟨_, compiled, hplaces, halone edges (neighboursAgree_of_forall same), hrewritten⟩

/-- A superscript between blanks is left alone, and a letter before a superscript is rewritten. -/
theorem superscript_run :
    let text := ['x', ' ', '²', ' ', 'y']
    (∃ rule, ofMacro .wordBoundary ['²'] ['2'] = .ok rule ∧ StandsAlone ['²'] text 2 ∧
      StandsBetweenBlanks ['²'] text 2 ∧ (Pass.run [rule] text).text = text ∧
      ¬ Leftmost (StandsAlone ['²'] text) 1 (rule.matcher.places text)) ∧
    ∃ rule, ofMacro .wordBoundary ['x'] ['y'] = .ok rule ∧ ¬ StandsAlone ['x'] ['x', '²'] 0 ∧
      (Pass.run [rule] ['x', '²']).text = ['y', '²'] := by
  intro text
  obtain ⟨hcompiled, hkept, hplaces⟩ :
      ofMacro .wordBoundary ['²'] ['2'] = .ok (ofEntry .wordBoundary (['²'], ['2'])) ∧
      (Pass.run [ofEntry .wordBoundary (['²'], ['2'])] text).text = text ∧
      (ofEntry .wordBoundary (['²'], ['2'])).matcher.places text = [] := by decide +kernel
  obtain ⟨hmade, hrewritten⟩ :
      ofMacro .wordBoundary ['x'] ['y'] = .ok (ofEntry .wordBoundary (['x'], ['y'])) ∧
      (Pass.run [ofEntry .wordBoundary (['x'], ['y'])] ['x', '²']).text = ['y', '²'] := by
        decide +kernel
  obtain ⟨hletter, hspace, hblank⟩ :
      isNameChar 'x' = true ∧ isNameChar ' ' = false ∧ isBlank ' ' = true := by decide
  have halone : StandsAlone ['²'] text 2 :=
    ⟨['x', ' '], [' ', 'y'], rfl, rfl, by simp [hspace], by simp [hspace]⟩
  have hbetween : StandsBetweenBlanks ['²'] text 2 :=
    ⟨['x', ' '], [' ', 'y'], rfl, rfl, by simp [hblank], by simp [hblank]⟩
  refine ⟨⟨_, hcompiled, halone, hbetween, hkept, fun h => ?_⟩, ⟨_, hmade, ?_, hrewritten⟩⟩
  · obtain ⟨j, hj, -⟩ := h.reach 2 halone
    rw [hplaces] at hj
    cases hj
  · intro h
    have hleft := Matcher.not_alone_before_superscript h
    simp [hletter] at hleft

end Rule

end GrammarBrew
