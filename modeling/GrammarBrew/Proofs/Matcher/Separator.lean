import GrammarBrew.Proofs.Matcher.Occurrence

/-!
A character that no occurrence of a name can touch. It cuts a text into two that are searched on
their own: no occurrence lies across it, and seen from either side it is as little of a word as the
end of a text.
-/

set_option autoImplicit false
set_option relaxedAutoImplicit false

namespace GrammarBrew.Matcher

variable {matcher : Matcher} {before other : Option Char} {c : Char} {text front rest value : Text}

structure Separates (matcher : Matcher) (c : Char) : Prop where
  notMem : c ∉ matcher.name
  apart : matcher.guardsStart = true ∨ matcher.guardsEnd = true → Text.isWord c = false

/-- A scan ends, misses at a place, or hits there and goes on after the name. -/
@[elab_as_elim]
theorem scanInduction {motive : Option Char → Text → Prop} (named : matcher.name ≠ [])
    (nil : ∀ before, motive before [])
    (miss : ∀ before c text, matcher.matchHere? before (c :: text) = none → motive (some c) text →
      motive before (c :: text))
    (hit : ∀ before c text rest, matcher.matchHere? before (c :: text) = some rest →
      motive matcher.name.getLast? rest → motive before (c :: text))
    (before : Option Char) (text : Text) : motive before text := by
  induction hlength : text.length using Nat.strongRecOn generalizing before text with
  | ind n ih =>
    cases text with
    | nil => exact nil before
    | cons c text =>
      cases hhere : matcher.matchHere? before (c :: text) with
      | none =>
        exact miss before c text hhere (ih text.length (by simp [← hlength]) (some c) text rfl)
      | some rest =>
        have hshorter : rest.length < n := by
          have hpos := List.length_pos_iff.2 named
          have hrest := length_of_matchHere? hhere
          omega
        exact hit before c text rest hhere (ih rest.length hshorter matcher.name.getLast? rest rfl)

/-! ### What stands before a text -/

private theorem matchHere?_congr
    (h : matcher.guardsStart = true → before.any Text.isWord = other.any Text.isWord) :
    matcher.matchHere? before text = matcher.matchHere? other text := by
  apply Option.ext
  intro rest
  rw [matchHere?_eq_some_iff, matchHere?_eq_some_iff]
  have hstart : (matcher.guardsStart = true → isBoundary before text.head? = true)
      ↔ (matcher.guardsStart = true → isBoundary other text.head? = true) := by
    refine forall_congr' fun hguards => ?_
    rw [isBoundary, isBoundary, h hguards]
  rw [hstart]

private theorem replaceFrom_congr (named : matcher.name ≠ [])
    (h : matcher.guardsStart = true → before.any Text.isWord = other.any Text.isWord) :
    matcher.replaceFrom value before text = matcher.replaceFrom value other text := by
  cases text with
  | nil => rw [replaceFrom_nil, replaceFrom_nil]
  | cons c text =>
    have hsame : matcher.matchHere? before (c :: text) = matcher.matchHere? other (c :: text) :=
      matchHere?_congr h
    cases hhere : matcher.matchHere? other (c :: text) with
    | none => rw [replaceFrom_miss named hhere, replaceFrom_miss named (hsame.trans hhere)]
    | some rest => rw [replaceFrom_hit named hhere, replaceFrom_hit named (hsame.trans hhere)]

private theorem occursAfter_congr (named : matcher.name ≠ [])
    (h : matcher.guardsStart = true → before.any Text.isWord = other.any Text.isWord) :
    matcher.OccursAfter before text ↔ matcher.OccursAfter other text := by
  cases text with
  | nil => exact iff_of_false (not_occursAfter_nil named) (not_occursAfter_nil named)
  | cons c text =>
    have hsame : matcher.matchHere? before (c :: text) = matcher.matchHere? other (c :: text) :=
      matchHere?_congr h
    rw [occursAfter_cons, occursAfter_cons, hsame]

private theorem Separates.before_eq (h : matcher.Separates c)
    (hguards : matcher.guardsStart = true) :
    (some c).any Text.isWord = (none : Option Char).any Text.isWord := by
  simpa using h.apart (Or.inl hguards)

/-! ### The two texts -/

private theorem append_cons_eq_append_iff {name ahead : Text} (h : c ∉ name) :
    front ++ c :: rest = name ++ ahead ↔ ∃ left, front = name ++ left ∧
      left ++ c :: rest = ahead := by
  constructor
  · intro htext
    rcases List.append_eq_append_iff.1 htext with ⟨inside, hname, hinside⟩ | ⟨left, hfront, hahead⟩
    · cases inside with
      | nil => exact ⟨[], by simpa using hname.symm, by simpa using hinside⟩
      | cons d inside =>
        have hd : c = d := (List.cons.inj hinside).1
        exact absurd (by rw [hname, hd]; simp) h
    · exact ⟨left, hfront, hahead.symm⟩
  · rintro ⟨left, rfl, rfl⟩
    exact List.append_assoc name left (c :: rest)

private theorem Separates.isBoundary_end (h : matcher.Separates c)
    (hguards : matcher.guardsEnd = true)
    (left : Text) : isBoundary before (left ++ c :: rest).head? = isBoundary before left.head? := by
  cases left with
  | nil => simp [isBoundary, h.apart (Or.inr hguards)]
  | cons d left => rfl

private theorem Separates.matchHere?_append (h : matcher.Separates c) (named : matcher.name ≠ []) :
    matcher.matchHere? before (front ++ c :: rest)
      = (matcher.matchHere? before front).map (· ++ c :: rest) := by
  apply Option.ext
  intro ahead
  rw [Option.map_eq_some_iff, matchHere?_eq_some_iff, append_cons_eq_append_iff h.notMem]
  have hhead : ∀ left, front = matcher.name ++ left → (front ++ c :: rest).head? = front.head? := by
    rintro left rfl
    rw [List.append_assoc, List.head?_append_of_ne_nil _ named, List.head?_append_of_ne_nil _ named]
  constructor
  · rintro ⟨⟨left, hfront, rfl⟩, hstart, hend⟩
    rw [hhead left hfront] at hstart
    refine ⟨left, matchHere?_eq_some_iff.2 ⟨hfront, hstart, fun hguards => ?_⟩, rfl⟩
    rw [← h.isBoundary_end hguards]
    exact hend hguards
  · rintro ⟨left, hleft, rfl⟩
    obtain ⟨hfront, hstart, hend⟩ := matchHere?_eq_some_iff.1 hleft
    rw [hhead left hfront]
    refine ⟨⟨left, hfront, rfl⟩, hstart, fun hguards => ?_⟩
    rw [h.isBoundary_end hguards]
    exact hend hguards

private theorem Separates.matchHere?_here (h : matcher.Separates c) (named : matcher.name ≠ []) :
    matcher.matchHere? before (c :: rest) = none := by
  have hhere : matcher.matchHere? before ([] ++ c :: rest)
      = (matcher.matchHere? before []).map (· ++ c :: rest) := h.matchHere?_append named
  rwa [List.nil_append, matchHere?_nil named, Option.map_none] at hhere

private theorem Separates.replaceFrom_append (h : matcher.Separates c) (named : matcher.name ≠ [])
    (before : Option Char) (front : Text) :
    matcher.replaceFrom value before (front ++ c :: rest)
      = matcher.replaceFrom value before front ++ c :: matcher.replaceFrom value none rest := by
  induction before, front using scanInduction named with
  | nil before =>
    rw [List.nil_append, replaceFrom_nil, List.nil_append,
      replaceFrom_miss named (h.matchHere?_here named), replaceFrom_congr named h.before_eq]
  | miss before d front hmiss ih =>
    have hwhole : matcher.matchHere? before (d :: (front ++ c :: rest)) = none := by
      rw [← List.cons_append, h.matchHere?_append named, hmiss, Option.map_none]
    rw [replaceFrom_miss named hmiss, List.cons_append, replaceFrom_miss named hwhole, ih]
    rfl
  | hit before d front left hhit ih =>
    have hwhole : matcher.matchHere? before (d :: (front ++ c :: rest))
        = some (left ++ c :: rest) := by
      rw [← List.cons_append, h.matchHere?_append named, hhit, Option.map_some]
    rw [replaceFrom_hit named hhit, List.cons_append, replaceFrom_hit named hwhole, ih,
      List.append_assoc]

theorem Separates.replace_append (h : matcher.Separates c) (named : matcher.name ≠ []) :
    matcher.replace value (front ++ c :: rest)
      = matcher.replace value front ++ c :: matcher.replace value rest :=
  h.replaceFrom_append named none front

private theorem Separates.occursAfter_append (h : matcher.Separates c) (named : matcher.name ≠ []) :
    matcher.OccursAfter before (front ++ c :: rest)
      ↔ matcher.OccursAfter before front ∨ matcher.OccursAfter none rest := by
  induction front generalizing before with
  | nil =>
    have hnot : ¬ matcher.OccursAfter before [] := not_occursAfter_nil named
    rw [List.nil_append, occursAfter_cons, h.matchHere?_here named,
      occursAfter_congr named h.before_eq]
    simp [hnot]
  | cons d front ih =>
    rw [List.cons_append, occursAfter_cons, ← List.cons_append, h.matchHere?_append named, ih,
      occursAfter_cons, Option.isSome_map, or_assoc]

theorem Separates.occurs_append (h : matcher.Separates c) (named : matcher.name ≠ []) :
    matcher.Occurs (front ++ c :: rest) ↔ matcher.Occurs front ∨ matcher.Occurs rest := by
  rw [occurs_iff, occurs_iff, occurs_iff]
  exact h.occursAfter_append named

end GrammarBrew.Matcher
