/-!
Rounds of a relation between places. A repetition goes round at least so many times and, if there is
a bound, at most so many; rounds that must be and rounds that may be follow each other.
-/

set_option autoImplicit false
set_option relaxedAutoImplicit false

namespace GrammarBrew

def Times (goes : Nat → Nat → Prop) : Nat → Nat → Nat → Prop
  | 0 => fun place last => last = place
  | count + 1 => fun place last => ∃ middle, goes place middle ∧ Times goes count middle last

/-- At least so many rounds and, if there is a bound, at most so many. -/
def Rounds (goes : Nat → Nat → Prop) (least : Nat) (most : Option Nat) (place last : Nat) : Prop :=
  ∃ count, least ≤ count ∧ (∀ bound ∈ most, count ≤ bound) ∧ Times goes count place last

variable {goes : Nat → Nat → Prop} {first second count least place last : Nat}
  {most extra : Option Nat}

theorem times_one : Times goes 1 place last ↔ goes place last := by
  simp [Times]

theorem rounds_zero : Rounds goes 0 (some 0) place last ↔ last = place := by
  constructor
  · rintro ⟨count, -, hbound, htimes⟩
    obtain rfl := Nat.le_zero.1 (hbound 0 rfl)
    exact htimes
  · exact fun hlast => ⟨0, Nat.le_refl 0, fun _ _ => Nat.zero_le _, hlast⟩

theorem times_add : Times goes (first + second) place last ↔
    ∃ middle, Times goes first place middle ∧ Times goes second middle last := by
  induction first generalizing place with
  | zero => simp [Times]
  | succ first ih =>
    rw [Nat.add_right_comm]
    simp only [Times, ih]
    constructor
    · rintro ⟨one, hone, two, htwo, hrest⟩
      exact ⟨two, ⟨one, hone, htwo⟩, hrest⟩
    · rintro ⟨two, ⟨one, hone, htwo⟩, hrest⟩
      exact ⟨one, hone, two, htwo, hrest⟩

theorem times_rounds_iff : (∃ middle, Times goes least place middle ∧
      Rounds goes 0 extra middle last) ↔ Rounds goes least (extra.map (least + ·)) place last := by
  constructor
  · rintro ⟨middle, hfirst, count, -, hbound, hrest⟩
    refine ⟨least + count, Nat.le_add_right .., fun bound hmem => ?_,
      times_add.2 ⟨middle, hfirst, hrest⟩⟩
    obtain ⟨extra, hextra, rfl⟩ := Option.map_eq_some_iff.1 hmem
    exact Nat.add_le_add_left (hbound extra hextra) least
  · rintro ⟨count, hleast, hbound, htimes⟩
    obtain ⟨count, rfl⟩ := Nat.exists_eq_add_of_le hleast
    obtain ⟨middle, hfirst, hrest⟩ := times_add.1 htimes
    refine ⟨middle, hfirst, count, Nat.zero_le _, fun extra hmem => ?_, hrest⟩
    have := hbound (least + extra) (Option.map_eq_some_iff.2 ⟨extra, hmem, rfl⟩)
    omega

theorem times_round_rounds_iff : (∃ middle, Times goes count place middle ∧
      ∃ next, goes middle next ∧ Rounds goes 0 none next last)
        ↔ Rounds goes (count + 1) none place last := by
  have hmust : (∃ next, Times goes (count + 1) place next ∧ Rounds goes 0 none next last)
      ↔ Rounds goes (count + 1) none place last := times_rounds_iff
  rw [← hmust]
  simp only [times_add, times_one]
  constructor
  · rintro ⟨middle, htimes, next, hgoes, hrounds⟩
    exact ⟨next, ⟨middle, htimes, hgoes⟩, hrounds⟩
  · rintro ⟨next, ⟨middle, htimes, hgoes⟩, hrounds⟩
    exact ⟨middle, htimes, next, hgoes, hrounds⟩

theorem round_or_none_iff : ((∃ middle, goes place middle ∧
      Rounds goes 0 extra middle last) ∨ last = place)
        ↔ Rounds goes 0 (extra.map (1 + ·)) place last := by
  constructor
  · rintro (⟨middle, hgoes, count, -, hbound, htimes⟩ | rfl)
    · refine ⟨count + 1, Nat.zero_le _, fun bound hmem => ?_, middle, hgoes, htimes⟩
      obtain ⟨extra, hextra, rfl⟩ := Option.map_eq_some_iff.1 hmem
      have := hbound extra hextra
      omega
    · exact ⟨0, Nat.le_refl 0, fun _ _ => Nat.zero_le _, rfl⟩
  · rintro ⟨count, -, hbound, htimes⟩
    cases count with
    | zero => exact Or.inr htimes
    | succ count =>
      obtain ⟨middle, hgoes, hrest⟩ := htimes
      refine Or.inl ⟨middle, hgoes, count, Nat.zero_le _, fun extra hmem => ?_, hrest⟩
      have := hbound (1 + extra) (Option.map_eq_some_iff.2 ⟨extra, hmem, rfl⟩)
      omega

/-! ### Rounds that stay where they are -/

theorem times_stays (hstays : ∀ place last, goes place last → last = place) :
    Times goes count place last → last = place := by
  induction count generalizing place with
  | zero => exact id
  | succ count ih =>
    rintro ⟨middle, hfirst, hrest⟩
    rw [ih hrest, hstays _ _ hfirst]

private theorem times_of_stays (h : goes place place) (count : Nat) :
    Times goes count place place := by
  induction count with
  | zero => exact rfl
  | succ count ih => exact ⟨place, h, ih⟩

/-- To repeat what matches no character more than once changes nothing. -/
theorem rounds_of_stays (hstays : ∀ place last, goes place last → last = place)
    (hbounds : ∀ bound ∈ most, least ≤ bound) :
    Rounds goes (min least 1) (some (min (most.getD 1) 1)) place last
      ↔ Rounds goes least most place last := by
  constructor
  · rintro ⟨count, hleast, hmost, htimes⟩
    have hcount : count ≤ min (most.getD 1) 1 := hmost _ rfl
    obtain rfl := times_stays hstays htimes
    rcases Nat.eq_zero_or_pos count with rfl | hpos
    · exact ⟨0, by omega, fun _ _ => Nat.zero_le _, rfl⟩
    · obtain rfl : count = 1 := by omega
      -- One round stays where it is, so it can be gone as often as the least count asks.
      refine ⟨max least 1, Nat.le_max_left .., fun bound hbound => ?_,
        times_of_stays (times_one.1 htimes) _⟩
      have hleast := hbounds bound hbound
      rw [Option.mem_def.1 hbound, Option.getD_some] at hcount
      omega
  · rintro ⟨count, hleast, hmost, htimes⟩
    obtain rfl := times_stays hstays htimes
    refine ⟨min count 1, by omega, fun bound hbound => ?_, ?_⟩
    · obtain rfl := Option.some.inj hbound
      cases most with
      | none => exact Nat.min_le_right ..
      | some most =>
        have hbound := hmost most rfl
        rw [Option.getD_some]
        omega
    · cases count with
      | zero => exact rfl
      | succ count =>
        obtain ⟨middle, hfirst, -⟩ := htimes
        rw [Nat.min_eq_right (Nat.succ_le_succ (Nat.zero_le count)), times_one]
        exact hstays _ _ hfirst ▸ hfirst

end GrammarBrew
