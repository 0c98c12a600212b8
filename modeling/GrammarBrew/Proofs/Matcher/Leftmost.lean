import GrammarBrew.Proofs.Matcher.Separator
import GrammarBrew.Proofs.Text.Cut

/-!
The places at which a matcher rewrites. Of the places where its name stands they are the leftmost
that do not overlap, and a text in which the name stands at given places has no other such list.
-/

set_option autoImplicit false
set_option relaxedAutoImplicit false

namespace GrammarBrew

/-! ### Leftmost places -/

/-- Places taken from the left, each `width` characters wide: none overlaps another, and where
something stands that was not taken, a place taken at its left reaches over its beginning. -/
structure Leftmost (stands : Nat → Prop) (width : Nat) (starts : List Nat) : Prop where
  stand : ∀ i ∈ starts, stands i
  apart : starts.Pairwise fun i j => i + width ≤ j
  reach : ∀ i, stands i → ∃ j ∈ starts, j ≤ i ∧ i < j + width

namespace Leftmost

variable {stands other : Nat → Prop} {width : Nat} {starts more : List Nat}

theorem congr (h : Leftmost stands width starts) (same : ∀ i, stands i ↔ other i) :
    Leftmost other width starts := by
  obtain rfl : stands = other := funext fun i => propext (same i)
  exact h

theorem zero_mem (h : Leftmost stands width starts) (first : stands 0) : 0 ∈ starts := by
  obtain ⟨j, hj, hle, -⟩ := h.reach 0 first
  obtain rfl := Nat.le_zero.1 hle
  exact hj

private theorem head_le {i j : Nat} (h : Leftmost stands width (i :: starts))
    (hj : j ∈ i :: starts) :
    i ≤ j := by
  rcases List.mem_cons.1 hj with rfl | hlater
  · exact Nat.le_refl j
  · have := (List.pairwise_cons.1 h.apart).1 j hlater
    omega

theorem head_le_of_stands {i k : Nat} (h : Leftmost stands width (i :: starts)) (hk : stands k) :
    i ≤ k := by
  obtain ⟨j, hj, hle, -⟩ := h.reach k hk
  exact Nat.le_trans (h.head_le hj) hle

theorem tail {i : Nat} (h : Leftmost stands width (i :: starts)) :
    Leftmost (fun k => stands k ∧ i + width ≤ k) width starts := by
  obtain ⟨hfirst, hlater⟩ := List.pairwise_cons.1 h.apart
  refine ⟨fun k hk => ⟨h.stand k (List.mem_cons_of_mem i hk), hfirst k hk⟩, hlater, ?_⟩
  rintro k ⟨hk, hpast⟩
  obtain ⟨j, hj, hle, hover⟩ := h.reach k hk
  rcases List.mem_cons.1 hj with rfl | hj
  · omega
  · exact ⟨j, hj, hle, hover⟩

/-- The leftmost places are determined by where something stands. -/
theorem unique (h : Leftmost stands width starts) (hmore : Leftmost stands width more) :
    starts = more := by
  induction starts generalizing stands more with
  | nil =>
    cases more with
    | nil => rfl
    | cons j more =>
      obtain ⟨i, hi, -⟩ := h.reach j (hmore.stand j (by simp))
      simp at hi
  | cons i starts ih =>
    obtain ⟨j, hj, hji, -⟩ := hmore.reach i (h.stand i (by simp))
    cases more with
    | nil => simp at hj
    | cons first more =>
      obtain ⟨k, hk, hkj, -⟩ := h.reach first (hmore.stand first (by simp))
      obtain rfl : i = first := by
        have := h.head_le hk
        have := hmore.head_le hj
        omega
      rw [ih h.tail hmore.tail]

private theorem skip (h : Leftmost (fun i => stands (i + 1)) width starts) (first : ¬ stands 0) :
    Leftmost stands width (starts.map (· + 1)) := by
  refine ⟨?_, ?_, fun i hi => ?_⟩
  · intro i hi
    obtain ⟨k, hk, rfl⟩ := List.mem_map.1 hi
    exact h.stand k hk
  · refine List.pairwise_map.2 (h.apart.imp ?_)
    intro a b hab
    omega
  · cases i with
    | zero => exact absurd hi first
    | succ i =>
      obtain ⟨j, hj, hle, hover⟩ := h.reach i hi
      exact ⟨j + 1, List.mem_map.2 ⟨j, hj, rfl⟩, by omega, by omega⟩

private theorem take (h : Leftmost (fun i => stands (i + width)) width starts) (first : stands 0) :
    Leftmost stands width (0 :: starts.map (· + width)) := by
  refine ⟨?_, List.pairwise_cons.2 ⟨?_, ?_⟩, fun i hi => ?_⟩
  · intro i hi
    rcases List.mem_cons.1 hi with rfl | hi
    · exact first
    · obtain ⟨k, hk, rfl⟩ := List.mem_map.1 hi
      exact h.stand k hk
  · intro i hi
    obtain ⟨k, -, rfl⟩ := List.mem_map.1 hi
    omega
  · refine List.pairwise_map.2 (h.apart.imp ?_)
    intro a b hab
    omega
  · by_cases hover : i < width
    · exact ⟨0, by simp, by omega, by omega⟩
    · obtain ⟨k, rfl⟩ : ∃ k, i = k + width := ⟨i - width, by omega⟩
      obtain ⟨j, hj, hle, hlt⟩ := h.reach k hi
      exact ⟨j + width, List.mem_cons_of_mem 0 (List.mem_map.2 ⟨j, hj, rfl⟩), by omega, by omega⟩

end Leftmost

namespace Text

/-- Where the marks stand between the parts of a text, each mark being `width` characters wide. -/
def marks (width : Nat) : List Text → List Nat
  | [] => []
  | [_] => []
  | part :: next :: parts =>
    part.length :: (marks width (next :: parts)).map (· + (part.length + width))

/-- A text with a value in the place of the name at some places, and nothing else changed. -/
def RewrittenAt (name value : Text) (starts : List Nat) (text result : Text) : Prop :=
  ∃ parts, text = join name parts ∧ result = join value parts ∧ starts = marks name.length parts

end Text

namespace Matcher

open Text

variable {matcher : Matcher} {before : Option Char} {c : Char}
  {text front rest value : Text} {i : Nat}

/-- The name stands at a place of a text, between the boundaries that the matcher asks for. -/
def StandsAt (matcher : Matcher) (text : Text) (i : Nat) : Prop :=
  ∃ front rest, text = front ++ matcher.name ++ rest ∧ front.length = i ∧
    (matcher.guardsStart = true → isBoundary front.getLast? matcher.name.head? = true) ∧
    (matcher.guardsEnd = true → isBoundary matcher.name.getLast? rest.head? = true)

def places (matcher : Matcher) (text : Text) : List Nat :=
  marks matcher.name.length (matcher.parts text)

/-! ### The scan -/

private def StandsFrom (matcher : Matcher) (before : Option Char) (text : Text) (i : Nat) : Prop :=
  i ≤ text.length ∧ (matcher.matchHere? ((text.take i).getLast?.or before) (text.drop i)).isSome

private theorem standsFrom_zero :
    matcher.StandsFrom before text 0 ↔ (matcher.matchHere? before text).isSome := by
  simp [StandsFrom]

private theorem standsFrom_succ :
    matcher.StandsFrom before (c :: text) (i + 1) ↔ matcher.StandsFrom (some c) text i := by
  simp [StandsFrom, getLast?_cons_or]

private theorem standsFrom_append (named : front ≠ []) :
    matcher.StandsFrom before (front ++ rest) (i + front.length)
      ↔ matcher.StandsFrom front.getLast? rest i := by
  have hsome : front.getLast?.isSome := by simpa using named
  have hbefore : front.getLast?.or before = front.getLast? := Option.or_of_isSome hsome
  have hdrop : (front ++ rest).drop (i + front.length) = rest.drop i := by
    rw [Nat.add_comm, List.drop_append]
    simp
  have htake : (front ++ rest).take (i + front.length) = front ++ rest.take i := by
    rw [Nat.add_comm, List.take_append, List.take_of_length_le (Nat.le_add_right _ _),
      Nat.add_sub_cancel_left]
  rw [StandsFrom, StandsFrom, hdrop, htake, List.getLast?_append, Option.or_assoc, hbefore,
    List.length_append]
  refine and_congr_left fun _ => ?_
  omega

private theorem marks_modifyHead_cons (width : Nat) (parts : List Text) :
    marks width (parts.modifyHead (c :: ·)) = (marks width parts).map (· + 1) := by
  cases parts with
  | nil => rfl
  | cons part parts =>
    cases parts with
    | nil => rfl
    | cons next parts =>
      simp only [List.modifyHead_cons, marks, List.length_cons, List.map_cons, List.map_map,
        Function.comp_def]
      congr 2
      funext k
      omega

private theorem leftmost_from (named : matcher.name ≠ []) (before : Option Char) (text : Text) :
    Leftmost (matcher.StandsFrom before text) matcher.name.length
      (marks matcher.name.length (matcher.partsFrom before [] text)) := by
  induction before, text using scanInduction named with
  | nil before =>
    rw [partsFrom_nil]
    have hnone : ∀ i, ¬ matcher.StandsFrom before [] i := by
      simp [StandsFrom, matchHere?_nil named]
    exact ⟨by simp [marks], by simp [marks], fun i hi => absurd hi (hnone i)⟩
  | miss before c text hmiss ih =>
    have hparts : matcher.partsFrom before [] (c :: text)
        = (matcher.partsFrom (some c) [] text).modifyHead (c :: ·) := by
      rw [partsFrom_miss hmiss, partsFrom_seen named]
      rfl
    rw [hparts, marks_modifyHead_cons]
    refine (ih.congr fun i => standsFrom_succ.symm).skip ?_
    simp [standsFrom_zero, hmiss]
  | hit before c text rest hhit ih =>
    have htext : c :: text = matcher.name ++ rest := (matchHere?_eq_some_iff.1 hhit).1
    have hparts : marks matcher.name.length (matcher.partsFrom before [] (c :: text))
        = 0 :: (marks matcher.name.length (matcher.partsFrom matcher.name.getLast? [] rest)).map
          (· + matcher.name.length) := by
      have hne : matcher.partsFrom matcher.name.getLast? [] rest ≠ [] := partsFrom_ne_nil named
      obtain ⟨part, parts, heq⟩ := List.exists_cons_of_ne_nil hne
      rw [partsFrom_hit named hhit, heq]
      simp [marks]
    rw [hparts]
    refine (ih.congr fun i => ?_).take (standsFrom_zero.2 (by simp [hhit]))
    rw [htext]
    exact (standsFrom_append named).symm

private theorem standsFrom_none_iff (named : matcher.name ≠ []) :
    matcher.StandsFrom none text i ↔ matcher.StandsAt text i := by
  have hhead : ∀ rest, (matcher.name ++ rest).head? = matcher.name.head? :=
    fun rest => List.head?_append_of_ne_nil _ named
  constructor
  · rintro ⟨hi, hhere⟩
    obtain ⟨rest, hrest⟩ := Option.isSome_iff_exists.1 hhere
    obtain ⟨hdrop, hstart, hend⟩ := matchHere?_eq_some_iff.1 hrest
    rw [hdrop, hhead, Option.or_none] at hstart
    refine ⟨text.take i, rest, ?_, List.length_take_of_le hi, hstart, hend⟩
    rw [List.append_assoc, ← hdrop, List.take_append_drop]
  · rintro ⟨front, rest, rfl, rfl, hstart, hend⟩
    have hhere : matcher.matchHere? front.getLast? (matcher.name ++ rest) = some rest := by
      rw [← hhead rest] at hstart
      exact matchHere?_eq_some_iff.2 ⟨rfl, hstart, hend⟩
    refine ⟨by simp, ?_⟩
    rw [List.append_assoc, List.take_left, List.drop_left, Option.or_none, hhere]
    rfl

theorem leftmost_places (named : matcher.name ≠ []) (text : Text) :
    Leftmost (matcher.StandsAt text) matcher.name.length (matcher.places text) :=
  (leftmost_from named none text).congr fun _ => standsFrom_none_iff named

theorem leftmost_places_ofName {name : Text} (named : name ≠ []) (mode : MatchMode) (text : Text) :
    Leftmost ((ofName mode name).StandsAt text) name.length ((ofName mode name).places text) := by
  have hleftmost := leftmost_places (by rwa [ofName_name mode name]) text
  rwa [ofName_name] at hleftmost

/-! ### What is rewritten there -/

private theorem replaceFrom_name (named : matcher.name ≠ []) (before : Option Char) (text : Text) :
    matcher.replaceFrom matcher.name before text = text := by
  induction before, text using scanInduction named with
  | nil before => exact replaceFrom_nil
  | miss before c text hmiss ih => rw [replaceFrom_miss named hmiss, ih]
  | hit before c text rest hhit ih =>
    rw [replaceFrom_hit named hhit, ih]
    exact (matchHere?_eq_some_iff.1 hhit).1.symm

theorem rewrittenAt_places (named : matcher.name ≠ []) (value text : Text) :
    RewrittenAt matcher.name value (matcher.places text) text (matcher.replace value text) :=
  ⟨matcher.parts text, (replaceFrom_name named none text).symm, rfl, rfl⟩

private theorem length_marks (width : Nat) (parts : List Text) :
    (marks width parts).length = parts.length - 1 := by
  induction parts with
  | nil => rfl
  | cons part parts ih =>
    cases parts with
    | nil => rfl
    | cons next parts => simpa [marks] using ih

theorem length_places (matcher : Matcher) (text : Text) :
    (matcher.places text).length = matcher.count text := length_marks _ _

end Matcher

end GrammarBrew
