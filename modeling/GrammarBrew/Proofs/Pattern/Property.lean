import GrammarBrew.Pattern.Class
import GrammarBrew.Proofs.Regex.Runs

/-!
The sets that names in a pattern stand for. Each table of a property is made of ascending runs of
characters, so that every set that a property, a class by a letter or a named class stands for is
orderly.
-/

set_option autoImplicit false
set_option relaxedAutoImplicit false

namespace GrammarBrew

namespace CharSet

/-! ### A check of sets -/

def ascendFrom (start : Nat) : List (Nat × Nat) → Bool
  | [] => true
  | (first, last) :: rest =>
    start.ble first && first.ble last
      && (last.blt 0xd800 || Nat.blt 0xdfff first && last.blt 0x110000) && ascendFrom first rest

def isOrderly : CharSet → Bool
  | nothing => true
  | range first last => decide (first ≤ last)
  | property runs => ascendFrom 0 runs
  | union a b | inter a b | diff a b => a.isOrderly && b.isOrderly
  | compl a | anyCase a => a.isOrderly

private theorem of_ascendFrom {start : Nat} {runs : List (Nat × Nat)}
    (h : ascendFrom start runs = true) :
    (∀ run ∈ runs, start ≤ run.1) ∧ Ascending runs ∧ ∀ n, Holds runs n → n.isValidChar := by
  induction runs generalizing start with
  | nil => exact ⟨by simp, ascending_nil, by simp [Holds]⟩
  | cons run rest ih =>
    simp only [ascendFrom, Bool.and_eq_true, Bool.or_eq_true, Nat.ble_eq, Nat.blt_eq] at h
    obtain ⟨⟨⟨hstart, hfilled⟩, hcharacters⟩, hrest⟩ := h
    obtain ⟨hlater, hascending, hvalid⟩ := ih hrest
    refine ⟨List.forall_mem_cons.2
      ⟨hstart, fun later hmem => Nat.le_trans hstart (hlater later hmem)⟩,
      ascending_cons_iff.2 ⟨hlater, hfilled, hascending⟩, fun n hn => ?_⟩
    rcases holds_cons_iff.1 hn with hin | hmore
    · have hcases : n < 0xd800 ∨ 0xdfff < n ∧ n < 0x110000 := by omega
      exact hcases
    · exact hvalid n hmore

private theorem orderly_of_isOrderly {set : CharSet} (h : set.isOrderly = true) : set.Orderly := by
  induction set with
  | nothing => exact trivial
  | range first last =>
    have hle : first ≤ last := by simpa [isOrderly] using h
    exact hle
  | property runs => exact (of_ascendFrom h).2
  | union a b iha ihb | inter a b iha ihb | diff a b iha ihb =>
    obtain ⟨ha, hb⟩ := (Bool.and_eq_true _ _).mp h
    exact ⟨iha ha, ihb hb⟩
  | compl a iha | anyCase a iha => exact iha h

private theorem orderly_anyOf {properties : List (List (Nat × Nat))}
    (h : ∀ runs ∈ properties, (property runs).Orderly) :
    (anyOf properties).Orderly :=
  List.foldlRecOn properties _ trivial fun _ hset runs hruns => ⟨hset, h runs hruns⟩

private theorem orderly_ofRanges {ranges : List (Char × Char)}
    (h : ∀ ends ∈ ranges, ends.1 ≤ ends.2) :
    (ofRanges ranges).Orderly :=
  List.foldlRecOn ranges _ trivial fun _ hset ends hends => ⟨hset, h ends hends⟩

theorem orderly_ascii : ascii.Orderly := orderly_of_isOrderly (by decide)

theorem orderly_bytes : (range '\x00' '\xff').Orderly := orderly_of_isOrderly (by decide)

theorem orderly_single (c : Char) : (single c).Orderly := Char.le_refl c

end CharSet

namespace Pattern

open CharSet Property

/-! ### Properties -/

private theorem orderly_of_named? {known : List (List String × CharSet)} {name : Text}
    {set : CharSet}
    (hknown : (known.all fun entry => entry.2.isOrderly) = true)
    (h : named? known name = some set) :
    set.Orderly := by
  obtain ⟨entry, hentry, rfl⟩ := Option.map_eq_some_iff.1 h
  exact orderly_of_isOrderly (List.all_eq_true.1 hknown entry (List.mem_of_find?_eq_some hentry))

private theorem orderly_script : ∀ entry ∈ scripts, (property entry.2.2).Orderly := by
  have hall : (scripts.all fun entry => (property entry.2.2).isOrderly) = true := by decide +kernel
  exact fun entry hentry => orderly_of_isOrderly (List.all_eq_true.1 hall entry hentry)

private theorem orderly_shared : ∀ row ∈ sharedRuns, (property row.2).Orderly := by
  have hall : (sharedRuns.all fun row => (property row.2).isOrderly) = true := by decide +kernel
  exact fun row hrow => orderly_of_isOrderly (List.all_eq_true.1 hall row hrow)

private theorem orderly_age : ∀ age ∈ ages, (property age.2.2).Orderly := by
  have hall : (ages.all fun age => (property age.2.2).isOrderly) = true := by decide +kernel
  exact fun age hage => orderly_of_isOrderly (List.all_eq_true.1 hall age hage)

variable {name key value : Text} {set : CharSet}

private theorem orderly_of_script? (h : script? name = some set) : set.Orderly := by
  obtain ⟨runs, hruns, rfl⟩ := Option.map_eq_some_iff.1 h
  obtain ⟨entry, hentry, rfl⟩ := Option.map_eq_some_iff.1 hruns
  exact orderly_script entry (List.mem_of_find?_eq_some hentry)

private theorem orderly_of_usedWith? (h : usedWith? name = some set) : set.Orderly := by
  obtain ⟨entry, hentry, rfl⟩ := Option.map_eq_some_iff.1 h
  refine ⟨⟨orderly_script entry (List.mem_of_find?_eq_some hentry), orderly_anyOf ?_⟩,
    orderly_anyOf ?_⟩
  · exact List.forall_mem_map.2 orderly_shared
  · exact List.forall_mem_map.2 fun row hrow => orderly_shared row (List.mem_of_mem_filter hrow)

private theorem orderly_of_assignedBy? (h : assignedBy? name = some set) : set.Orderly := by
  unfold assignedBy? at h
  dsimp only at h
  split at h
  · cases h
  · obtain rfl := Option.some.inj h
    exact orderly_anyOf (List.forall_mem_map.2 fun age hage =>
      orderly_age age (List.mem_of_mem_take hage))

private theorem orderly_of_category (h : named? categories name = some set) : set.Orderly := by
  have hall : (categories.all fun entry => entry.2.isOrderly) = true := by decide +kernel
  exact orderly_of_named? hall h

private theorem orderly_of_byName? (h : byName? name = some set) : set.Orderly := by
  have hbinary : (binaryProperties.all fun entry => entry.2.isOrderly) = true := by decide +kernel
  unfold byName? at h
  cases hfirst : named? binaryProperties name with
  | some found =>
    rw [hfirst] at h
    obtain rfl := Option.some.inj h
    exact orderly_of_named? hbinary hfirst
  | none =>
    rw [hfirst] at h
    cases hsecond : named? categories name with
    | some found =>
      rw [hsecond] at h
      obtain rfl := Option.some.inj h
      exact orderly_of_category hsecond
    | none =>
      rw [hsecond] at h
      exact orderly_of_script? h

private theorem orderly_of_byValue? (h : byValue? key value = some set) : set.Orderly := by
  have hcluster : (clusterBreaks.all fun entry => entry.2.isOrderly) = true := by decide +kernel
  have hword : (wordBreaks.all fun entry => entry.2.isOrderly) = true := by decide +kernel
  have hsentence : (sentenceBreaks.all fun entry => entry.2.isOrderly) = true := by decide +kernel
  unfold byValue? at h
  split_ifs at h
  · exact orderly_of_category h
  · exact orderly_of_script? h
  · exact orderly_of_usedWith? h
  · exact orderly_of_assignedBy? h
  · exact orderly_of_named? hcluster h
  · exact orderly_of_named? hword h
  · exact orderly_of_named? hsentence h

theorem orderly_of_property? {text : Text} {isLeftOut : Bool}
    (h : property? text = some (isLeftOut, set)) :
    set.Orderly := by
  unfold property? at h
  split at h
  · obtain ⟨found, hfound, heq⟩ := Option.map_eq_some_iff.1 h
    obtain rfl := (Prod.mk.inj heq).2
    exact orderly_of_byValue? hfound
  · obtain ⟨found, hfound, heq⟩ := Option.map_eq_some_iff.1 h
    obtain rfl := (Prod.mk.inj heq).2
    split at hfound
    · exact orderly_of_byValue? hfound
    · exact orderly_of_byName? hfound

/-! ### Classes by a letter or a name -/

theorem orderly_digits : Property.digits.Orderly := orderly_of_isOrderly (by decide +kernel)

theorem orderly_blanks : CharSet.blanks.Orderly := orderly_of_isOrderly (by decide +kernel)

theorem orderly_words : CharSet.words.Orderly := orderly_of_isOrderly (by decide +kernel)

theorem orderly_of_asciiClass? (h : asciiClass? name = some set) : set.Orderly := by
  unfold asciiClass? at h
  dsimp only at h
  obtain ⟨ranges, hranges, rfl⟩ := Option.map_eq_some_iff.1 h
  refine orderly_ofRanges ?_
  split at hranges
  all_goals first
    | (obtain rfl := Option.some.inj hranges; decide)
    | cases hranges

end Pattern

end GrammarBrew
