import GrammarBrew.Files.Path
import Mathlib.Data.List.Basic

/-!
The names along a path. Paths that are put together with a slash put their names together; a
directory and a name joined have the names of the one and then the other, and the path that a path
lies in has a first part of its names.
-/

set_option autoImplicit false
set_option relaxedAutoImplicit false

namespace GrammarBrew.Path

variable {path front rest directory name parent : Path} {b : UInt8}

/-! ### Segments -/

@[simp] theorem segments_nil : segments [] = [[]] := rfl

private theorem segments_cons_slash : segments (slash :: path) = [] :: segments path := rfl

private theorem segments_ne_nil (path : Path) : segments path ≠ [] := by
  induction path with
  | nil => simp
  | cons b path ih =>
    by_cases hb : b = slash
    · subst hb
      simp [segments_cons_slash]
    · obtain ⟨part, others, hparts⟩ := List.exists_cons_of_ne_nil ih
      simp only [segments] at hparts
      simp [segments, hb, hparts]

private theorem segments_cons (hb : b ≠ slash) :
    segments (b :: path) = (segments path).modifyHead (b :: ·) := by
  obtain ⟨part, others, hparts⟩ := List.exists_cons_of_ne_nil (segments_ne_nil path)
  simp only [segments] at hparts ⊢
  simp [hb, hparts]

private theorem segments_append_slash :
    segments (front ++ slash :: rest) = segments front ++ segments rest := by
  induction front with
  | nil => rfl
  | cons b front ih =>
    by_cases hb : b = slash
    · subst hb
      rw [List.cons_append, segments_cons_slash, segments_cons_slash, ih]
      rfl
    · rw [List.cons_append, segments_cons hb, segments_cons hb, ih]
      obtain ⟨part, others, hparts⟩ := List.exists_cons_of_ne_nil (segments_ne_nil front)
      rw [hparts]
      rfl

private theorem segments_of_not_mem (h : slash ∉ name) : segments name = [name] := by
  induction name with
  | nil => rfl
  | cons b name ih =>
    have hb : b ≠ slash := fun hb => h (by simp [hb])
    rw [segments_cons hb, ih fun hmem => h (List.mem_cons_of_mem b hmem)]
    rfl

private theorem not_mem_of_mem_segments (h : name ∈ segments path) : slash ∉ name := by
  induction path generalizing name with
  | nil =>
    obtain rfl : name = [] := by simpa using h
    simp
  | cons b path ih =>
    by_cases hb : b = slash
    · subst hb
      rw [segments_cons_slash] at h
      rcases List.mem_cons.1 h with rfl | h
      · simp
      · exact ih h
    · rw [segments_cons hb] at h
      obtain ⟨part, others, hparts⟩ := List.exists_cons_of_ne_nil (segments_ne_nil path)
      rw [hparts, List.modifyHead_cons] at h
      rcases List.mem_cons.1 h with rfl | h
      · have hpart : slash ∉ part := ih (by simp [hparts])
        simp [Ne.symm hb, hpart]
      · exact ih (by simp [hparts, h])

/-! ### Names -/

def named (path : Path) : List Bytes := path.segments.filter fun segment => !segment.isEmpty

theorem names_eq_of_slash (h : path.getLast? = some slash) : names path = named path ++ [[]] := by
  simp [names, named, h]

theorem names_eq_of_no_slash (h : path.getLast? ≠ some slash) : names path = named path := by
  simp [names, named, h]

private theorem named_append_slash :
    named (front ++ slash :: rest) = named front ++ named rest := by
  rw [named, segments_append_slash, List.filter_append]
  rfl

theorem not_mem_of_mem_named (h : name ∈ named path) : slash ∉ name :=
  not_mem_of_mem_segments (List.mem_filter.1 h).1

theorem not_mem_of_mem_names (h : name ∈ names path) : slash ∉ name := by
  by_cases hslash : path.getLast? = some slash
  · rw [names_eq_of_slash hslash] at h
    rcases List.mem_append.1 h with h | h
    · exact not_mem_of_mem_named h
    · obtain rfl := List.mem_singleton.1 h
      simp
  · rw [names_eq_of_no_slash hslash] at h
    exact not_mem_of_mem_named h

private theorem eq_slash_of_named_eq_nil (h : named path = []) : ∀ b ∈ path, b = slash := by
  have hempty : ∀ segment ∈ segments path, segment = [] := by
    intro segment hsegment
    by_contra hne
    have hmem : segment ∈ named path := List.mem_filter.2 ⟨hsegment, by simpa using hne⟩
    simp [h] at hmem
  induction path with
  | nil => simp
  | cons b path ih =>
    by_cases hb : b = slash
    · subst hb
      rw [named, segments_cons_slash] at h
      refine List.forall_mem_cons.2 ⟨rfl, ih (by simpa [named] using h) fun segment hsegment => ?_⟩
      exact hempty segment (by simp [segments_cons_slash, hsegment])
    · obtain ⟨part, others, hparts⟩ := List.exists_cons_of_ne_nil (segments_ne_nil path)
      have hfirst := hempty (b :: part) (by simp [segments_cons hb, hparts])
      simp at hfirst

private theorem names_ne_nil (h : path ≠ []) : names path ≠ [] := by
  by_cases hslash : path.getLast? = some slash
  · simp [names_eq_of_slash hslash]
  · rw [names_eq_of_no_slash hslash]
    intro hnone
    have hlast := eq_slash_of_named_eq_nil hnone _ (List.getLast_mem h)
    rw [List.getLast?_eq_some_getLast h, hlast] at hslash
    exact hslash rfl

theorem names_append_slash :
    ∃ more, more ≠ [] ∧ names (front ++ slash :: rest) = named front ++ more := by
  by_cases hrest : rest = []
  · subst hrest
    refine ⟨[[]], by simp, ?_⟩
    rw [names_eq_of_slash (by simp), named_append_slash]
    simp [named]
  · refine ⟨names rest, names_ne_nil hrest, ?_⟩
    have hlast : (front ++ slash :: rest).getLast? = rest.getLast? := by
      rw [List.getLast?_append_of_ne_nil _ (by simp), List.getLast?_cons_of_ne_nil hrest]
    by_cases hslash : rest.getLast? = some slash
    · rw [names_eq_of_slash (hlast.trans hslash), names_eq_of_slash hslash, named_append_slash,
        List.append_assoc]
    · rw [names_eq_of_no_slash (hlast ▸ hslash), names_eq_of_no_slash hslash, named_append_slash]

/-! ### A name in a directory -/

section

variable (hdirectory : directory ≠ []) (hname : name ≠ []) (hslash : slash ∉ name)
include hdirectory

private theorem join_eq (name : Bytes) :
    ∃ front, named front = named directory ∧ directory.join name = front ++ slash :: name := by
  by_cases hlast : directory.getLast? = some slash
  · obtain ⟨front, rfl⟩ := List.getLast?_eq_some_iff.1 hlast
    refine ⟨front, ?_, by simp [join]⟩
    rw [named_append_slash, named, named]
    simp
  · exact ⟨directory, rfl, by simp [join, hdirectory, hlast]⟩

include hname hslash

theorem names_join : names (directory.join name) = named directory ++ [name] := by
  obtain ⟨front, hfront, hjoin⟩ := join_eq hdirectory name
  have hlast : (front ++ slash :: name).getLast? ≠ some slash := by
    rw [List.getLast?_append_of_ne_nil _ (by simp), List.getLast?_cons_of_ne_nil hname]
    exact fun hlast => hslash (List.mem_of_getLast? hlast)
  rw [hjoin, names_eq_of_no_slash hlast, named_append_slash, hfront]
  congr 1
  rw [named, segments_of_not_mem hslash]
  simp [hname]

end

theorem isAbsolute_join (hdirectory : directory ≠ []) :
    isAbsolute (directory.join name) = isAbsolute directory := by
  obtain ⟨b, others, rfl⟩ := List.exists_cons_of_ne_nil hdirectory
  unfold join
  split <;> rfl

/-! ### The path that a path lies in -/

private theorem anchor_cases (path : Path) :
    anchor path = [] ∨ (anchor path = [slash] ∧ ∃ rest, path = slash :: rest) ∨
      (anchor path = [dot] ∧ ∃ rest, path = dot :: rest ∧
        (rest = [] ∨ rest.head? = some slash)) := by
  cases path with
  | nil => exact Or.inl rfl
  | cons b rest =>
    by_cases hslash : b = slash
    · subst hslash
      exact Or.inr (Or.inl ⟨by simp [anchor], rest, rfl⟩)
    · by_cases hdot : b = dot ∧ (rest.isEmpty ∨ rest.head? = some slash)
      · obtain ⟨rfl, hrest⟩ := hdot
        refine Or.inr (Or.inr ⟨?_, rest, rfl, by simpa using hrest⟩)
        simp only [anchor, if_neg hslash, hrest, and_self, if_true]
      · exact Or.inl (by simp only [anchor, if_neg hslash, if_neg hdot])

private theorem anchor_append_drop (path : Path) :
    anchor path ++ path.drop (anchor path).length = path := by
  rcases anchor_cases path with h | ⟨h, rest, rfl⟩ | ⟨h, rest, rfl, -⟩
  · simp [h]
  · simp [h]
  · simp [h]

private theorem length_dropTail_le (tail : Bytes) : (dropTail tail).length ≤ tail.length := by
  induction tail with
  | nil => exact Nat.le_refl _
  | cons b tail ih =>
    simp only [dropTail]
    split
    · exact Nat.le_succ_of_le ih
    · split
      · exact Nat.le_succ_of_le ih
      · exact Nat.le_refl _

private theorem dropTail_eq (tail : Bytes) :
    ∃ dropped, tail = dropped ++ dropTail tail ∧
      (dropped = [] ∨ dropped.getLast? = some slash ∨ dropTail tail = []) := by
  induction tail with
  | nil => exact ⟨[], rfl, Or.inl rfl⟩
  | cons b tail ih =>
    obtain ⟨dropped, htail, hend⟩ := ih
    by_cases hslash : b = slash
    · have hdrop : dropTail (b :: tail) = dropTail tail := by simp [dropTail, hslash]
      refine ⟨b :: dropped, by rw [hdrop, List.cons_append, ← htail], ?_⟩
      rw [hdrop]
      rcases hend with rfl | hlast | hnil
      · exact Or.inr (Or.inl (by simp [hslash]))
      · have hne : dropped ≠ [] := by
          rintro rfl
          simp at hlast
        exact Or.inr (Or.inl (by rwa [List.getLast?_cons_of_ne_nil hne]))
      · exact Or.inr (Or.inr hnil)
    · by_cases hdot : b = dot ∧ (tail.isEmpty ∨ tail.head? = some slash)
      · have hdrop : dropTail (b :: tail) = dropTail tail := by
          simp only [dropTail, if_neg hslash, if_pos hdot]
        refine ⟨b :: dropped, by rw [hdrop, List.cons_append, ← htail], ?_⟩
        rw [hdrop]
        rcases hend with rfl | hlast | hnil
        · -- Nothing of the tail was dropped, so it does not begin with a slash and is empty.
          refine Or.inr (Or.inr ?_)
          rw [List.nil_append] at htail
          rcases hdot.2 with hempty | hhead
          · rw [← htail]
            simpa using hempty
          · obtain ⟨more, rfl⟩ : ∃ more, tail = slash :: more := by
              cases tail with
              | nil => simp at hhead
              | cons b more => exact ⟨more, by simpa using hhead⟩
            have hshort : dropTail (slash :: more) = dropTail more := by simp [dropTail]
            have hle := length_dropTail_le more
            rw [← hshort, ← htail, List.length_cons] at hle
            omega
        · have hne : dropped ≠ [] := by
            rintro rfl
            simp at hlast
          exact Or.inr (Or.inl (by rwa [List.getLast?_cons_of_ne_nil hne]))
        · exact Or.inr (Or.inr hnil)
      · have hkeep : dropTail (b :: tail) = b :: tail := by
          simp only [dropTail, if_neg hslash, if_neg hdot]
        exact ⟨[], by rw [hkeep]; rfl, Or.inl rfl⟩

private theorem anchor_lies (hne : path.backwards ≠ []) :
    path.anchor = [] ∨ (path.anchor = [slash] ∧ ∃ rest, path = slash :: rest) ∨
      ∃ rest, path = path.anchor ++ slash :: rest := by
  rcases anchor_cases path with h | h | ⟨h, rest, hrest, hhead⟩
  · exact Or.inl h
  · exact Or.inr (Or.inl h)
  · rcases hhead with rfl | hhead
    · obtain ⟨dropped, hback, -⟩ := dropTail_eq (path.drop path.anchor.length).reverse
      have hdrop : path.drop path.anchor.length = [] := by rw [h, hrest]; rfl
      rw [hdrop] at hback
      rw [backwards, hdrop] at hne
      exact absurd (List.append_eq_nil_iff.1 hback.symm).2 hne
    · cases rest with
      | nil => simp at hhead
      | cons b more =>
        obtain rfl : b = slash := by simpa using hhead
        exact Or.inr (Or.inr ⟨more, by rw [h, hrest]; rfl⟩)

private theorem kept_lies {last more : Bytes} (hback : path.backwards = last ++ slash :: more)
    (hne : dropTail more ≠ []) :
    ∃ rest, path = path.anchor ++ (dropTail more).reverse ++ slash :: rest := by
  obtain ⟨dropped, htail, -⟩ := dropTail_eq (path.drop path.anchor.length).reverse
  rw [← backwards, hback] at htail
  obtain ⟨junk, hmore, hjunk⟩ := dropTail_eq more
  have hdrop : path.drop path.anchor.length
      = (dropTail more).reverse ++ (junk.reverse ++ slash :: (dropped ++ last).reverse) := by
    rw [← List.reverse_reverse (path.drop path.anchor.length), htail]
    nth_rewrite 1 [hmore]
    simp
  have hwhole : path = path.anchor ++ (dropTail more).reverse
      ++ (junk.reverse ++ slash :: (dropped ++ last).reverse) := by
    rw [List.append_assoc, ← hdrop, anchor_append_drop]
  -- What was dropped before the last slash begins with a slash itself, if it is anything.
  rcases hjunk with rfl | hlast | hall
  · exact ⟨_, hwhole⟩
  · obtain ⟨front, rfl⟩ := List.getLast?_eq_some_iff.1 hlast
    rw [List.reverse_append, List.reverse_singleton, List.singleton_append, List.cons_append]
      at hwhole
    exact ⟨_, hwhole⟩
  · exact absurd hall hne

/-- The path that a path lies in stands before a slash in it, if it is neither empty nor the
root. -/
theorem parent?_cases (h : path.parent? = some parent) :
    parent = [] ∨ (parent = [slash] ∧ ∃ rest, path = slash :: rest) ∨
      ∃ rest, path = parent ++ slash :: rest := by
  unfold parent? at h
  simp only [List.isEmpty_iff] at h
  split at h
  · split at h
    · exact Or.inl (Option.some.inj h).symm
    · simp at h
  next hne =>
    obtain rfl := Option.some.inj h
    have hsplit := List.takeWhile_append_dropWhile (p := fun b => b != slash) (l := path.backwards)
    cases hrest : path.backwards.dropWhile (fun b => b != slash) with
    | nil => simpa [dropTail] using anchor_lies hne
    | cons b more =>
      have hhead := List.head?_dropWhile_not (fun b => b != slash) path.backwards
      obtain rfl : b = slash := by simpa [hrest] using hhead
      have hshort : dropTail (slash :: more) = dropTail more := by simp [dropTail]
      rw [hshort]
      by_cases hnil : dropTail more = []
      · simpa [hnil] using anchor_lies hne
      · rw [hrest] at hsplit
        exact Or.inr (Or.inr (kept_lies hsplit.symm hnil))

end GrammarBrew.Path
