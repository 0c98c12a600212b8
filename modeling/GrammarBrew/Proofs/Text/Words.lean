import GrammarBrew.Text.Class
import Mathlib.Data.List.SplitBy
import Mathlib.Data.List.TakeWhile

/-!
A text as a sequence of words and of single characters between them. A word put in the place of
another, or any text at all, does not run together with its neighbours, for a word stands between
characters that are no word characters.
-/

set_option autoImplicit false
set_option relaxedAutoImplicit false

namespace GrammarBrew.Text

/-- The longest words of a text, and the characters between them one by one. -/
def runs (text : Text) : List Text := text.splitBy fun a b => isWord a && isWord b

def IsWholeWord (run : Text) : Prop := run ≠ [] ∧ ∀ c ∈ run, isWord c = true

def BeginsApart (text : Text) : Prop := ∀ c ∈ text.head?, isWord c = false

def EndsApart (text : Text) : Prop := ∀ c ∈ text.getLast?, isWord c = false

variable {c : Char} {text word rest run : Text}

@[simp] theorem runs_nil : runs [] = [] := rfl

@[simp] private theorem flatten_runs : (runs text).flatten = text := List.flatten_splitBy _ _

@[simp] private theorem beginsApart_nil : BeginsApart [] := by simp [BeginsApart]

@[simp] private theorem beginsApart_cons : BeginsApart (c :: text) ↔ isWord c = false := by
  simp [BeginsApart]

theorem not_beginsApart_word_append (h : IsWholeWord word) : ¬ BeginsApart (word ++ rest) := by
  obtain ⟨c, others, rfl⟩ := List.exists_cons_of_ne_nil h.1
  simp [h.2 c (by simp)]

private theorem runs_append_of_beginsApart (h : BeginsApart rest) :
    runs (text ++ rest) = runs text ++ runs rest :=
  List.splitBy_append fun x _ y hy => by simp [h y hy]

theorem runs_append_of_endsApart (h : EndsApart text) :
    runs (text ++ rest) = runs text ++ runs rest :=
  List.splitBy_append fun x hx y _ => by simp [h x hx]

theorem runs_of_isWholeWord (h : IsWholeWord word) : runs word = [word] := by
  refine List.splitBy_of_isChain h.1 (List.isChain_iff_forall_rel_of_append_cons_cons.2 ?_)
  rintro a b front back rfl
  simp [h.2 a (by simp), h.2 b (by simp)]

private theorem runs_singleton : runs [c] = [[c]] :=
  List.splitBy_of_isChain (by simp) (List.isChain_singleton c)

theorem runs_cons_apart (h : isWord c = false) : runs (c :: text) = [c] :: runs text := by
  have happend : runs ([c] ++ text) = runs [c] ++ runs text :=
    runs_append_of_endsApart (by simpa [EndsApart] using h)
  rwa [runs_singleton] at happend

theorem runs_word_append (hword : IsWholeWord word) (hrest : BeginsApart rest) :
    runs (word ++ rest) = word :: runs rest := by
  rw [runs_append_of_beginsApart hrest, runs_of_isWholeWord hword]
  rfl

/-- A text is empty, begins with a character between words, or begins with a whole word. -/
@[elab_as_elim]
theorem runsInduction {motive : Text → Prop} (nil : motive [])
    (apart : ∀ c text, isWord c = false → motive text → motive (c :: text))
    (word : ∀ word rest, IsWholeWord word → BeginsApart rest → motive rest → motive (word ++ rest))
    (text : Text) : motive text := by
  induction hlength : text.length using Nat.strong_induction_on generalizing text with
  | _ n ih =>
    cases text with
    | nil => exact nil
    | cons c text =>
      cases hc : isWord c with
      | false => exact apart c text hc (ih text.length (by simp [← hlength]) text rfl)
      | true =>
        have hsplit := List.takeWhile_append_dropWhile (p := isWord) (l := c :: text)
        have hne : (c :: text).takeWhile isWord ≠ [] := by simp [hc]
        have hshorter : ((c :: text).dropWhile isWord).length < n := by
          have := congrArg List.length hsplit
          have := List.length_pos_iff.2 hne
          rw [List.length_append] at *
          omega
        rw [← hsplit]
        refine word _ _ ⟨hne, fun d hd => List.mem_takeWhile_imp hd⟩ ?_ (ih _ hshorter _ rfl)
        intro d hd
        have := List.head?_dropWhile_not isWord (c :: text)
        rw [Option.mem_def.1 hd] at this
        simpa using this

private theorem run_cases (h : run ∈ runs text) :
    IsWholeWord run ∨ ∃ c, isWord c = false ∧ run = [c] := by
  induction text using runsInduction with
  | nil => simp at h
  | apart c text hc ih =>
    rw [runs_cons_apart hc] at h
    rcases List.mem_cons.1 h with rfl | h
    · exact Or.inr ⟨c, hc, rfl⟩
    · exact ih h
  | word word rest hword hrest ih =>
    rw [runs_word_append hword hrest] at h
    rcases List.mem_cons.1 h with rfl | h
    · exact Or.inl hword
    · exact ih h

theorem runs_of_mem_runs (h : run ∈ runs text) : runs run = [run] := by
  rcases run_cases h with hword | ⟨c, -, rfl⟩
  · exact runs_of_isWholeWord hword
  · exact runs_singleton

def mapRuns (f : Text → Text) (text : Text) : Text := (runs text).flatMap f

@[simp] theorem mapRuns_nil {f : Text → Text} : mapRuns f [] = [] := rfl

theorem mapRuns_cons_apart {f : Text → Text} (h : isWord c = false) :
    mapRuns f (c :: text) = f [c] ++ mapRuns f text := by
  rw [mapRuns, runs_cons_apart h, List.flatMap_cons]
  rfl

theorem mapRuns_word_append {f : Text → Text} (hword : IsWholeWord word)
    (hrest : BeginsApart rest) :
    mapRuns f (word ++ rest) = f word ++ mapRuns f rest := by
  rw [mapRuns, runs_word_append hword hrest, List.flatMap_cons]
  rfl

theorem mapRuns_congr {f g : Text → Text} (h : ∀ run ∈ runs text, f run = g run) :
    mapRuns f text = mapRuns g text := by
  rw [mapRuns, mapRuns, List.flatMap_def, List.flatMap_def, List.map_congr_left h]

theorem mapRuns_eq_self {f : Text → Text} (h : ∀ run ∈ runs text, f run = run) :
    mapRuns f text = text := by
  rw [mapRuns, List.flatMap_def, List.map_congr_left h, List.map_id', flatten_runs]

/-- What takes the place of words does not run together with its neighbours. -/
theorem runs_mapRuns {f : Text → Text} (hf : ∀ run, ¬ IsWholeWord run → f run = run) :
    runs (mapRuns f text) = (runs text).flatMap fun run => runs (f run) := by
  have hapart : ∀ c, isWord c = false → f [c] = [c] := fun c hc =>
    hf [c] fun hword => by simp [hword.2 c (by simp)] at hc
  have hbegins : ∀ text, BeginsApart text → BeginsApart (mapRuns f text) := by
    intro text h
    cases text with
    | nil => simp [mapRuns]
    | cons c text =>
      have hc := beginsApart_cons.1 h
      simp [mapRuns_cons_apart hc, hapart c hc, hc]
  induction text using runsInduction with
  | nil => rfl
  | apart c text hc ih =>
    rw [mapRuns_cons_apart hc, hapart c hc, List.singleton_append, runs_cons_apart hc,
      runs_cons_apart hc, ih, List.flatMap_cons, hapart c hc, runs_singleton]
    rfl
  | word word rest hword hrest ih =>
    rw [mapRuns_word_append hword hrest, runs_append_of_beginsApart (hbegins rest hrest), ih,
      runs_word_append hword hrest, List.flatMap_cons]

end GrammarBrew.Text
