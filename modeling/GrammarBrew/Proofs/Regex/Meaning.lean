import GrammarBrew.Proofs.Regex.Normal
import GrammarBrew.Proofs.Regex.Rounds
import GrammarBrew.Proofs.Regex.Runs

/-!
What an expression matches, apart from any machine: the places between which it can be read. The
normal form of an expression matches between the same places.
-/

set_option autoImplicit false
set_option relaxedAutoImplicit false

namespace GrammarBrew

def Look.HoldsAt (condition : Look) (text : Array Char) (place : Nat) : Prop :=
  condition.holds (if place = 0 then none else text[place - 1]?) text[place]? = true

namespace Regex

/-- An expression matches what stands between two places of a text, in whatever order of
preference. -/
def Matches (text : Array Char) : Regex → Nat → Nat → Prop
  | empty => fun place last => last = place
  | set chars =>
    fun place last => (∃ c, text[place]? = some c ∧ chars.contains c = true) ∧ last = place + 1
  | look condition => fun place last => condition.HoldsAt text place ∧ last = place
  | seq first second =>
    fun place last => ∃ middle, first.Matches text place middle ∧ second.Matches text middle last
  | alt first second =>
    fun place last => first.Matches text place last ∨ second.Matches text place last
  | rep body least most _ => Rounds (body.Matches text) least most
  | group _ body => body.Matches text

def Orderly : Regex → Prop
  | empty | look _ => True
  | set chars => chars.Orderly
  | seq first second | alt first second => first.Orderly ∧ second.Orderly
  | rep body least most _ => body.Orderly ∧ ∀ bound ∈ most, least ≤ bound
  | group number body => (∀ n ∈ number, 0 < n) ∧ body.Orderly

end Regex

namespace Normal

def Matches (text : Array Char) : Normal → Nat → Nat → Prop
  | empty => fun place last => last = place
  | literal name => fun place last => name <+: text.toList.drop place ∧ last = place + name.length
  | set runs =>
    fun place last => (∃ c, text[place]? = some c ∧ Text.inRuns runs c.toNat = true) ∧
      last = place + 1
  | look condition => fun place last => condition.HoldsAt text place ∧ last = place
  | seq first second =>
    fun place last => ∃ middle, first.Matches text place middle ∧ second.Matches text middle last
  | alt first second =>
    fun place last => first.Matches text place last ∨ second.Matches text place last
  | rep body least most _ => Rounds (body.Matches text) least most
  | kept _ body => body.Matches text

def Orderly : Normal → Prop
  | empty | literal _ | look _ => True
  | set runs => CharSet.Tidy runs
  | seq first second | alt first second => first.Orderly ∧ second.Orderly
  | rep body least most _ => body.Orderly ∧ ∀ bound ∈ most, least ≤ bound
  | kept _ body => body.Orderly

def PartsMatch (text : Array Char) : List Normal → Nat → Nat → Prop
  | [] => fun place last => last = place
  | part :: rest =>
    fun place last => ∃ middle, part.Matches text place middle ∧ PartsMatch text rest middle last

def BranchMatches (text : Array Char) (choice : List (List Normal)) (place last : Nat) : Prop :=
  ∃ branch ∈ choice, PartsMatch text branch place last

def AllOrderly (choice : List (List Normal)) : Prop :=
  ∀ branch ∈ choice, ∀ part ∈ branch, part.Orderly

variable {text : Array Char} {part : Normal} {parts rest : List Normal}
  {choice : List (List Normal)}
  {place last : Nat}

/-! ### Parts and branches -/

@[simp] private theorem partsMatch_nil : PartsMatch text [] place last ↔ last = place := Iff.rfl

@[simp] private theorem partsMatch_cons : PartsMatch text (part :: rest) place last ↔
    ∃ middle, part.Matches text place middle ∧ PartsMatch text rest middle last := Iff.rfl

@[simp] private theorem partsMatch_singleton : PartsMatch text [part] place last
    ↔ part.Matches text place last := by
  simp

private theorem partsMatch_append : PartsMatch text (parts ++ rest) place last ↔
    ∃ middle, PartsMatch text parts place middle ∧ PartsMatch text rest middle last := by
  induction parts generalizing place with
  | nil => simp
  | cons part parts ih =>
    simp only [List.cons_append, partsMatch_cons, ih]
    constructor
    · rintro ⟨first, hpart, second, hparts, hrest⟩
      exact ⟨second, ⟨first, hpart, hparts⟩, hrest⟩
    · rintro ⟨second, ⟨first, hpart, hparts⟩, hrest⟩
      exact ⟨first, hpart, second, hparts, hrest⟩

private theorem partsMatch_parts (normal : Normal) :
    PartsMatch text normal.parts place last ↔ normal.Matches text place last := by
  induction normal generalizing place last with
  | empty => exact Iff.rfl
  | seq first second hfirst hsecond =>
    simp only [Normal.parts, partsMatch_append, hfirst, hsecond, Matches]
  | _ => exact partsMatch_singleton

private theorem matches_ofParts : (ofParts parts).Matches text place last
    ↔ PartsMatch text parts place last := by
  induction parts generalizing place with
  | nil => exact Iff.rfl
  | cons part parts ih =>
    by_cases hparts : parts = []
    · subst hparts
      exact partsMatch_singleton.symm
    · rw [ofParts_cons part hparts]
      simp only [Matches, partsMatch_cons, ih]

private theorem exists_branch_iff (normal : Normal) :
    (∃ branch ∈ normal.branches, branch.Matches text place last)
      ↔ normal.Matches text place last := by
  induction normal with
  | alt first second hfirst hsecond =>
    simp only [branches, List.mem_append, or_and_right, exists_or, hfirst, hsecond, Matches]
  | _ => simp [branches]

private theorem matches_ofBranches {branches : List Normal} :
    (ofBranches branches).Matches text place last
      ↔ ∃ branch ∈ branches, branch.Matches text place last := by
  induction branches with
  | nil => simp [ofBranches, Matches, Text.inRuns]
  | cons branch branches ih =>
    by_cases hbranches : branches = []
    · subst hbranches
      simp [ofBranches]
    · rw [ofBranches]
      · simp only [Matches, ih, List.mem_cons, exists_eq_or_imp]
      · exact hbranches

private theorem append_prefix_iff {name next rest : Text} :
    name ++ next <+: rest ↔ name <+: rest ∧ next <+: rest.drop name.length := by
  constructor
  · rintro ⟨more, rfl⟩
    exact ⟨⟨next ++ more, (List.append_assoc ..).symm⟩, by simp⟩
  · rintro ⟨⟨more, rfl⟩, hnext⟩
    rw [List.drop_left] at hnext
    exact (List.prefix_append_right_inj name).2 hnext

theorem matches_literal_append {name next : Text} :
    (literal (name ++ next)).Matches text place last ↔
    ∃ middle, (literal name).Matches text place middle ∧
      (literal next).Matches text middle last := by
  simp only [Matches, append_prefix_iff, List.drop_drop, List.length_append]
  constructor
  · rintro ⟨⟨hname, hnext⟩, rfl⟩
    exact ⟨_, ⟨hname, rfl⟩, hnext, (Nat.add_assoc ..).symm⟩
  · rintro ⟨_, ⟨hname, rfl⟩, hnext, rfl⟩
    exact ⟨⟨hname, hnext⟩, Nat.add_assoc ..⟩

private theorem partsMatch_before (part : Normal) (rest : List Normal) :
    PartsMatch text (before part rest) place last ↔ PartsMatch text (part :: rest) place last := by
  unfold before
  split
  next name next rest =>
    simp only [partsMatch_cons, matches_literal_append]
    constructor
    · rintro ⟨second, ⟨first, hname, hnext⟩, hrest⟩
      exact ⟨first, hname, second, hnext, hrest⟩
    · rintro ⟨first, hname, second, hnext, hrest⟩
      exact ⟨second, ⟨first, hname, hnext⟩, hrest⟩
  next => exact Iff.rfl

private theorem partsMatch_joined (first second : List Normal) :
    PartsMatch text (append first second) place last
      ↔ PartsMatch text (first ++ second) place last := by
  induction first generalizing place with
  | nil => exact Iff.rfl
  | cons part first ih =>
    have hcons : append (part :: first) second = before part (append first second) := rfl
    simp only [hcons, partsMatch_before, List.cons_append, partsMatch_cons, ih]

theorem matches_character (c : Char) :
    (literal [c]).Matches text place last ↔ (set [(c.toNat, c.toNat)]).Matches text place last := by
  have hprefix : [c] <+: text.toList.drop place ↔ text[place]? = some c := by
    rw [← Array.getElem?_toList, ← List.head?_drop]
    cases text.toList.drop place <;> simp [eq_comm]
  simp [Matches, CharSet.inRuns_single_iff, hprefix]

private theorem matches_ofRuns {runs : List (Nat × Nat)} (tidy : CharSet.Tidy runs) :
    (ofRuns runs).Matches text place last ↔ (set runs).Matches text place last := by
  unfold ofRuns
  split
  next first bound =>
    split
    next heq =>
      subst heq
      have hvalid : first.isValidChar := tidy.characters first (by simp [CharSet.Holds])
      rw [matches_character, CharSet.toNat_ofNat_of_isValidChar hvalid]
    next => exact Iff.rfl
  next => exact Iff.rfl

/-! ### Orderly parts -/

private theorem orderly_parts {normal : Normal} (h : normal.Orderly) :
    ∀ part ∈ normal.parts, part.Orderly := by
  induction normal with
  | empty => simp [Normal.parts]
  | seq first second hfirst hsecond => exact List.forall_mem_append.2 ⟨hfirst h.1, hsecond h.2⟩
  | _ => exact List.forall_mem_singleton.2 h

private theorem orderly_ofParts (h : ∀ part ∈ parts, part.Orderly) : (ofParts parts).Orderly := by
  induction parts with
  | nil => exact trivial
  | cons part parts ih =>
    obtain ⟨hpart, hrest⟩ := List.forall_mem_cons.1 h
    by_cases hparts : parts = []
    · subst hparts
      exact hpart
    · rw [ofParts_cons part hparts]
      exact ⟨hpart, ih hrest⟩

private theorem orderly_branches {normal : Normal} (h : normal.Orderly) :
    ∀ branch ∈ normal.branches, branch.Orderly := by
  induction normal with
  | alt first second hfirst hsecond => exact List.forall_mem_append.2 ⟨hfirst h.1, hsecond h.2⟩
  | _ => exact List.forall_mem_singleton.2 h

private theorem orderly_ofBranches {branches : List Normal}
    (h : ∀ branch ∈ branches, branch.Orderly) :
    (ofBranches branches).Orderly := by
  induction branches with
  | nil => exact CharSet.tidy_nil
  | cons branch branches ih =>
    obtain ⟨hbranch, hrest⟩ := List.forall_mem_cons.1 h
    by_cases hbranches : branches = []
    · subst hbranches
      exact hbranch
    · rw [ofBranches]
      · exact ⟨hbranch, ih hrest⟩
      · exact hbranches

private theorem orderly_joined {first second : List Normal} (hfirst : ∀ part ∈ first, part.Orderly)
    (hsecond : ∀ part ∈ second, part.Orderly) : ∀ part ∈ append first second, part.Orderly := by
  have hbefore : ∀ (part : Normal) (rest : List Normal), part.Orderly →
      (∀ part ∈ rest, part.Orderly) → ∀ joined ∈ before part rest, joined.Orderly := by
    intro part rest hpart hrest
    unfold before
    split
    · exact List.forall_mem_cons.2 ⟨trivial, (List.forall_mem_cons.1 hrest).2⟩
    · exact List.forall_mem_cons.2 ⟨hpart, hrest⟩
  exact List.foldrRecOn first before hsecond fun rest hrest part hpart =>
    hbefore part rest (hfirst part hpart) hrest

private theorem orderly_ofRuns {runs : List (Nat × Nat)} (tidy : CharSet.Tidy runs) :
    (ofRuns runs).Orderly := by
  unfold ofRuns
  split
  · split
    · exact trivial
    · exact tidy
  · exact tidy

/-! ### Choices -/

private theorem branchMatches_cons {branch : List Normal} :
    BranchMatches text (branch :: choice) place last ↔
    PartsMatch text branch place last ∨ BranchMatches text choice place last := by
  simp [BranchMatches]

private theorem allOrderly_flatten (h : AllOrderly choice) : AllOrderly (flatten choice) := by
  intro branch hbranch
  obtain ⟨whole, hwhole, hmem⟩ := List.mem_flatMap.1 hbranch
  have horderly := h whole hwhole
  split at hmem
  next first second =>
    obtain ⟨normal, hnormal, rfl⟩ := List.mem_map.1 hmem
    exact orderly_parts (orderly_branches (horderly _ List.mem_cons_self) normal hnormal)
  next =>
    obtain rfl := List.mem_singleton.1 hmem
    exact horderly

private def opened (branch : List Normal) : List (List Normal) :=
  match branch with
  | [alt first second] => (alt first second).branches.map Normal.parts
  | _ => [branch]

private theorem exists_opened_iff (whole : List Normal) :
    (∃ branch ∈ opened whole, PartsMatch text branch place last)
      ↔ PartsMatch text whole place last := by
  unfold opened
  split
  next first second =>
    rw [partsMatch_singleton, ← exists_branch_iff]
    simp [partsMatch_parts]
  next => simp

private theorem branchMatches_flatten :
    BranchMatches text (flatten choice) place last ↔ BranchMatches text choice place last := by
  have hflatten : flatten choice = choice.flatMap opened := rfl
  simp only [BranchMatches, hflatten, List.mem_flatMap]
  constructor
  · rintro ⟨branch, ⟨whole, hmem, hbranch⟩, hmatch⟩
    exact ⟨whole, hmem, (exists_opened_iff whole).1 ⟨branch, hbranch, hmatch⟩⟩
  · rintro ⟨whole, hmem, hmatch⟩
    obtain ⟨branch, hbranch, hmatch⟩ := (exists_opened_iff whole).2 hmatch
    exact ⟨branch, ⟨whole, hmem, hbranch⟩, hmatch⟩

private theorem matches_unite {a b : List (Nat × Nat)} (ha : CharSet.Tidy a) (hb : CharSet.Tidy b) :
    (set (CharSet.unite a b)).Matches text place last ↔
      (set a).Matches text place last ∨ (set b).Matches text place last := by
  simp only [Matches, CharSet.inRuns_unite ha.ascending hb.ascending, Bool.or_eq_true,
    and_or_left, exists_or, or_and_right]

private theorem foldl_unite_spec {read? : List Normal → Option (List (Nat × Nat))}
    (hread : ∀ branch runs, (∀ part ∈ branch, part.Orderly) → read? branch = some runs →
      CharSet.Tidy runs ∧ ∀ place last, PartsMatch text branch place last
        ↔ (set runs).Matches text place last)
    {sets : List (List (Nat × Nat))} {found : List (Nat × Nat)} (hfound : CharSet.Tidy found)
    (horderly : AllOrderly choice) (h : choice.mapM read? = some sets) :
    CharSet.Tidy (sets.foldl CharSet.unite found) ∧ ∀ place last,
      (set (sets.foldl CharSet.unite found)).Matches text place last ↔
        (set found).Matches text place last ∨ BranchMatches text choice place last := by
  induction choice generalizing sets found with
  | nil =>
    obtain rfl : [] = sets := by simpa using h
    exact ⟨hfound, fun place last => by simp [BranchMatches]⟩
  | cons branch choice ih =>
    obtain ⟨hbranch, hchoice⟩ := List.forall_mem_cons.1 horderly
    rw [List.mapM_cons] at h
    obtain ⟨runs, hruns, h⟩ := Option.bind_eq_some_iff.1 h
    obtain ⟨later, hlater, h⟩ := Option.bind_eq_some_iff.1 h
    obtain rfl : runs :: later = sets := Option.some.inj h
    obtain ⟨htidy, hmatches⟩ := hread branch runs hbranch hruns
    obtain ⟨hall, hunited⟩ := ih (hfound.unite htidy) hchoice hlater
    refine ⟨hall, fun place last => ?_⟩
    rw [List.foldl_cons, hunited, matches_unite hfound htidy, branchMatches_cons,
      hmatches, or_assoc]

private theorem lone?_spec {branch : List Normal} {runs : List (Nat × Nat)}
    (h : lone? branch = some runs) :
    CharSet.Tidy runs ∧ ∀ place last, PartsMatch text branch place last
      ↔ (set runs).Matches text place last := by
  unfold lone? at h
  split at h
  next c =>
    obtain rfl := Option.some.inj h
    have htidy : CharSet.Tidy [(c.toNat, c.toNat)] := by
      refine ⟨⟨List.pairwise_singleton .., by simp⟩, fun n hn => ?_⟩
      obtain rfl : c.toNat = n := by
        have hboth : c.toNat ≤ n ∧ n ≤ c.toNat := by simpa [CharSet.Holds] using hn
        omega
      exact c.valid
    refine ⟨htidy, fun place last => ?_⟩
    rw [partsMatch_singleton, matches_character]
  next => cases h

private theorem setOf?_spec {branch : List Normal} {runs : List (Nat × Nat)}
    (horderly : ∀ part ∈ branch, part.Orderly)
    (h : setOf? branch = some runs) :
    CharSet.Tidy runs ∧ ∀ place last, PartsMatch text branch place last
      ↔ (set runs).Matches text place last := by
  unfold setOf? at h
  split at h
  next found =>
    obtain rfl := Option.some.inj h
    exact ⟨horderly _ List.mem_cons_self, fun place last => partsMatch_singleton⟩
  next => cases h

private theorem orderly_sharedStart (h : AllOrderly choice) :
    ∀ part ∈ sharedStart choice, part.Orderly := by
  cases choice with
  | nil => simp [sharedStart]
  | cons first others =>
    intro part hpart
    exact h first List.mem_cons_self part
      ((sharedStart_isPrefix first List.mem_cons_self).subset hpart)

private theorem branchMatches_drop {start : List Normal}
    (hstart : ∀ branch ∈ choice, start <+: branch) :
    (∃ middle, PartsMatch text start place middle ∧
        BranchMatches text (choice.map fun branch => branch.drop start.length) middle last) ↔
      BranchMatches text choice place last := by
  have hbranch : ∀ branch ∈ choice, PartsMatch text branch place last ↔
      ∃ middle, PartsMatch text start place middle ∧
        PartsMatch text (branch.drop start.length) middle last := by
    intro branch hmem
    obtain ⟨rest, rfl⟩ := hstart branch hmem
    rw [List.drop_left, partsMatch_append]
  constructor
  · rintro ⟨middle, hfirst, branch, hmem, hrest⟩
    obtain ⟨whole, hwhole, rfl⟩ := List.mem_map.1 hmem
    exact ⟨whole, hwhole, (hbranch whole hwhole).2 ⟨middle, hfirst, hrest⟩⟩
  · rintro ⟨whole, hwhole, hmatch⟩
    obtain ⟨middle, hfirst, hrest⟩ := (hbranch whole hwhole).1 hmatch
    exact ⟨middle, hfirst, _, List.mem_map_of_mem hwhole, hrest⟩

private theorem lone_ofBranches_spec (text : Array Char) {choice : List (List Normal)}
    (h : AllOrderly choice) :
    (∀ part ∈ [ofBranches (choice.map ofParts)], part.Orderly) ∧ ∀ place last,
      PartsMatch text [ofBranches (choice.map ofParts)] place last
        ↔ BranchMatches text choice place last := by
  refine ⟨List.forall_mem_singleton.2 (orderly_ofBranches ?_), fun place last => ?_⟩
  · exact List.forall_mem_map.2 fun branch hbranch => orderly_ofParts (h branch hbranch)
  · rw [partsMatch_singleton, matches_ofBranches]
    simp [BranchMatches, matches_ofParts]

private theorem choose_spec (text : Array Char) (bound : Nat) (choice : List (List Normal))
    (horderly : AllOrderly choice) :
    (∀ part ∈ choose bound choice, part.Orderly) ∧
      ∀ place last, PartsMatch text (choose bound choice) place last
        ↔ BranchMatches text choice place last := by
  have hflat := allOrderly_flatten horderly
  -- `choose` goes by the branches of its flattened choice, which matches the same.
  suffices (∀ part ∈ choose bound choice, part.Orderly) ∧ ∀ place last,
      PartsMatch text (choose bound choice) place last
        ↔ BranchMatches text (flatten choice) place last by
    simpa only [branchMatches_flatten] using this
  clear horderly
  fun_induction choose bound choice with
  | case1 bound choice branch hsingle =>
    rw [hsingle] at hflat ⊢
    refine ⟨List.forall_mem_singleton.1 hflat, fun place last => ?_⟩
    simp [BranchMatches]
  | case2 bound choice sets hmany hsets =>
    have hunited : CharSet.Tidy (sets.foldl CharSet.unite []) ∧ ∀ place last,
        (set (sets.foldl CharSet.unite [])).Matches text place last ↔
          (set []).Matches text place last ∨ BranchMatches text (flatten choice) place last := by
      cases hlone : (flatten choice).mapM lone? with
      | none =>
        rw [hlone] at hsets
        exact foldl_unite_spec (fun branch runs => setOf?_spec) CharSet.tidy_nil hflat hsets
      | some found =>
        rw [hlone] at hsets
        obtain rfl := Option.some.inj hsets
        exact foldl_unite_spec (fun branch runs _ => lone?_spec) CharSet.tidy_nil hflat hlone
    obtain ⟨htidy, hmatches⟩ := hunited
    refine ⟨orderly_parts (orderly_ofRuns htidy), fun place last => ?_⟩
    rw [partsMatch_parts, matches_ofRuns htidy, hmatches]
    simp [Matches, Text.inRuns]
  | case3 choice => exact lone_ofBranches_spec text hflat
  | case4 choice => exact lone_ofBranches_spec text hflat
  | case5 choice bound hmany hsets start hstart =>
    rename_i ih
    have hrest : AllOrderly ((flatten choice).map fun branch => branch.drop start.length) := by
      refine List.forall_mem_map.2 fun branch hbranch part hpart => ?_
      exact hflat branch hbranch part (List.mem_of_mem_drop hpart)
    obtain ⟨horderly, hmatches⟩ := ih (allOrderly_flatten hrest)
    refine ⟨orderly_joined (orderly_sharedStart hflat) horderly, fun place last => ?_⟩
    simp only [partsMatch_joined, partsMatch_append, hmatches, branchMatches_flatten]
    exact (branchMatches_drop sharedStart_isPrefix).trans branchMatches_flatten

/-! ### Repetitions -/

private theorem last_eq_of_maxLength {normal : Normal} (hmax : normal.maxLength = some 0)
    (h : normal.Matches text place last) : last = place := by
  induction normal generalizing place last with
  | empty => exact h
  | literal name =>
    obtain ⟨-, rfl⟩ := h
    have hname : (Text.encode name).length = 0 := Option.some.inj hmax
    cases name with
    | nil => rfl
    | cons c name =>
      rw [Text.encode, List.flatMap_cons, List.length_append, String.length_utf8EncodeChar] at hname
      have := c.utf8Size_pos
      omega
  | set runs =>
    obtain ⟨run, -, hsize⟩ := Option.map_eq_some_iff.1 hmax
    have := (Char.ofNat run.2).utf8Size_pos
    omega
  | look condition => exact h.2
  | seq first second hfirst hsecond =>
    obtain ⟨size, hsize, hmax⟩ := Option.bind_eq_some_iff.1 hmax
    obtain ⟨more, hmore, hmax⟩ := Option.bind_eq_some_iff.1 hmax
    have hsum : size + more = 0 := Option.some.inj hmax
    obtain ⟨rfl, rfl⟩ : size = 0 ∧ more = 0 := by omega
    obtain ⟨middle, hone, hother⟩ := h
    rw [hsecond hmore hother, hfirst hsize hone]
  | alt first second hfirst hsecond =>
    obtain ⟨size, hsize, hmax⟩ := Option.bind_eq_some_iff.1 hmax
    obtain ⟨more, hmore, hmax⟩ := Option.bind_eq_some_iff.1 hmax
    have hgreatest : max size more = 0 := Option.some.inj hmax
    obtain ⟨rfl, rfl⟩ : size = 0 ∧ more = 0 := by omega
    exact h.elim (hfirst hsize) (hsecond hmore)
  | rep body least most greedy hbody =>
    obtain ⟨bound, hbound, hmax⟩ := Option.bind_eq_some_iff.1 hmax
    obtain ⟨size, hsize, hmax⟩ := Option.bind_eq_some_iff.1 hmax
    have hproduct : bound * size = 0 := Option.some.inj hmax
    obtain ⟨count, -, hmost, htimes⟩ := h
    rcases Nat.mul_eq_zero.1 hproduct with rfl | rfl
    · obtain rfl := Nat.le_zero.1 (hmost 0 hbound)
      exact htimes
    · exact times_stays (fun place last => hbody hsize) htimes
  | kept number body hbody => exact hbody hmax h

private theorem matches_ofRep {body : Normal} {least : Nat} {most : Option Nat} (greedy : Bool)
    (hbounds : ∀ bound ∈ most, least ≤ bound) :
    (ofRep body least most greedy).Matches text place last
      ↔ Rounds (body.Matches text) least most place last := by
  -- The two repetitions that are written without `rep`.
  have hrep : ∀ (least : Nat) (most : Option Nat),
      (if least = 0 ∧ most = some 0 then empty else if least = 1 ∧ most = some 1 then body
        else rep body least most greedy).Matches text place last ↔
          Rounds (body.Matches text) least most place last := by
    intro least most
    split
    next hnone =>
      obtain ⟨rfl, rfl⟩ := hnone
      simp [Rounds, Matches, Times]
    next =>
      split
      next hone =>
        obtain ⟨rfl, rfl⟩ := hone
        constructor
        · intro h
          exact ⟨1, Nat.le_refl 1, by simp, times_one.2 h⟩
        · rintro ⟨count, hleast, hmost, htimes⟩
          obtain rfl := Nat.le_antisymm (hmost 1 rfl) hleast
          exact times_one.1 htimes
      next => exact Iff.rfl
  unfold ofRep
  dsimp only
  by_cases hblank : body.maxLength = some 0
  · simp only [hblank, decide_true, if_true]
    exact (hrep _ _).trans (rounds_of_stays (fun place last => last_eq_of_maxLength hblank) hbounds)
  · simp only [hblank, decide_false, Bool.false_eq_true, if_false]
    exact hrep _ _

private theorem orderly_ofRep {body : Normal} {least : Nat} {most : Option Nat} (greedy : Bool)
    (hbody : body.Orderly)
    (hbounds : ∀ bound ∈ most, least ≤ bound) : (ofRep body least most greedy).Orderly := by
  have hrep : ∀ (least : Nat) (most : Option Nat), (∀ bound ∈ most, least ≤ bound) →
      (if least = 0 ∧ most = some 0 then empty else if least = 1 ∧ most = some 1 then body
        else rep body least most greedy).Orderly := by
    intro least most hbounds
    split
    · exact trivial
    · split
      · exact hbody
      · exact ⟨hbody, hbounds⟩
  unfold ofRep
  dsimp only
  split
  · refine hrep _ _ fun bound hbound => ?_
    obtain rfl := Option.some.inj hbound
    cases most with
    | none => exact Nat.min_le_right ..
    | some most =>
      have := hbounds most rfl
      rw [Option.getD_some]
      omega
  · exact hrep _ _ hbounds

end Normal

namespace Regex

open GrammarBrew.Normal

variable {text : Array Char} {regex : Regex}

private structure Branches (text : Array Char) (choice : List (List Normal))
    (goes : Nat → Nat → Prop) : Prop where
  orderly : AllOrderly choice
  leads : ∀ place last, BranchMatches text choice place last ↔ goes place last

private theorem Branches.chosen {choice : List (List Normal)} {goes : Nat → Nat → Prop}
    (h : Branches text choice goes) : (∀ part ∈ chooseAll choice, part.Orderly) ∧
      ∀ place last, PartsMatch text (chooseAll choice) place last ↔ goes place last := by
  obtain ⟨hparts, hchosen⟩ := choose_spec text _ _ h.orderly
  exact ⟨hparts, fun place last => (hchosen place last).trans (h.leads place last)⟩

private theorem Branches.single {branch : List Normal} {goes : Nat → Nat → Prop}
    (orderly : ∀ part ∈ branch, part.Orderly)
    (leads : ∀ place last, PartsMatch text branch place last ↔ goes place last) :
      Branches text [branch] goes :=
  ⟨List.forall_mem_singleton.2 orderly, fun place last => by simp [BranchMatches, leads]⟩

private theorem branches_normalBranches (text : Array Char) (h : regex.Orderly) :
    Branches text regex.normalBranches (regex.Matches text) := by
  induction regex with
  | empty => exact .single (by simp) fun place last => Iff.rfl
  | set chars =>
    have htidy := CharSet.tidy_runs h
    refine .single (orderly_parts (orderly_ofRuns htidy)) fun place last => ?_
    simp only [partsMatch_parts, matches_ofRuns htidy, Normal.Matches, Matches,
      CharSet.inRuns_runs h]
  | look condition =>
    exact .single (List.forall_mem_singleton.2 trivial) fun place last => partsMatch_singleton
  | seq first second hfirst hsecond =>
    obtain ⟨hfirstOrderly, hfirstMatches⟩ := (hfirst h.1).chosen
    obtain ⟨hsecondOrderly, hsecondMatches⟩ := (hsecond h.2).chosen
    refine .single (orderly_joined hfirstOrderly hsecondOrderly) fun place last => ?_
    simp only [partsMatch_joined, partsMatch_append, hfirstMatches, hsecondMatches, Matches]
  | alt first second hfirst hsecond =>
    obtain ⟨hfirstOrderly, hfirstMatches⟩ := (hfirst h.1).chosen
    obtain ⟨hsecondOrderly, hsecondMatches⟩ := hsecond h.2
    refine ⟨List.forall_mem_cons.2 ⟨hfirstOrderly, hsecondOrderly⟩, fun place last => ?_⟩
    rw [normalBranches, branchMatches_cons, hfirstMatches, hsecondMatches, Matches]
  | rep body least most greedy hbody =>
    obtain ⟨hbodyOrderly, hbodyMatches⟩ := (hbody h.1).chosen
    have hsame : (ofParts (chooseAll body.normalBranches)).Matches text = body.Matches text := by
      funext place last
      rw [matches_ofParts, hbodyMatches]
    refine .single (orderly_parts (orderly_ofRep greedy (orderly_ofParts hbodyOrderly) h.2))
      fun place last => ?_
    rw [partsMatch_parts, matches_ofRep greedy h.2, hsame, Matches]
  | group number body hbody =>
    obtain ⟨hbodyOrderly, hbodyMatches⟩ := (hbody h.2).chosen
    cases number with
    | none => exact .single hbodyOrderly hbodyMatches
    | some number =>
      refine .single (List.forall_mem_singleton.2 (orderly_ofParts hbodyOrderly))
        fun place last => ?_
      rw [partsMatch_singleton, Normal.Matches, matches_ofParts, hbodyMatches, Matches]

theorem orderly_normal (h : regex.Orderly) : regex.normal.Orderly :=
  orderly_ofParts (branches_normalBranches #[] h).chosen.1

theorem matches_normal (h : regex.Orderly) {place last : Nat} :
    regex.normal.Matches text place last ↔ regex.Matches text place last := by
  rw [normal, matches_ofParts]
  exact (branches_normalBranches text h).chosen.2 place last

/-! ### Whole texts -/

private theorem last_le_size {place last : Nat} (h : regex.Matches text place last)
    (hplace : place ≤ text.size) :
    last ≤ text.size := by
  induction regex generalizing place last with
  | empty =>
    obtain rfl : last = place := h
    exact hplace
  | set chars =>
    obtain ⟨⟨c, hc, -⟩, rfl⟩ := h
    exact (Array.getElem?_eq_some_iff.1 hc).1
  | look condition =>
    obtain ⟨-, rfl⟩ := h
    exact hplace
  | seq first second hfirst hsecond =>
    obtain ⟨middle, hone, hother⟩ := h
    exact hsecond hother (hfirst hone hplace)
  | alt first second hfirst hsecond => exact h.elim (hfirst · hplace) (hsecond · hplace)
  | rep body least most greedy hbody =>
    obtain ⟨count, -, -, htimes⟩ := h
    induction count generalizing place with
    | zero =>
      obtain rfl : last = place := htimes
      exact hplace
    | succ count ih =>
      obtain ⟨middle, hround, hrest⟩ := htimes
      exact ih (hbody hround hplace) hrest
  | group number body hbody => exact hbody h hplace

theorem orderly_wholeText (h : regex.Orderly) : regex.wholeText.Orderly :=
  ⟨trivial, ⟨by simp, h⟩, trivial⟩

/-- An expression that is tied to both ends of a text matches somewhere in it if it matches the
whole text. -/
theorem exists_matches_wholeText_iff (body : Regex) :
    (∃ place ≤ text.size, ∃ last, body.wholeText.Matches text place last)
      ↔ body.Matches text 0 text.size := by
  have hstart : ∀ place ≤ text.size, Look.HoldsAt .textStart text place ↔ place = 0 := by
    intro place hplace
    rw [Look.HoldsAt, Look.holds, Option.isNone_iff_eq_none]
    split
    next hzero => simp [hzero]
    next hpos =>
      rw [Array.getElem?_eq_none_iff]
      omega
  have hend : ∀ last ≤ text.size, Look.HoldsAt .textEnd text last ↔ last = text.size := by
    intro last hlast
    rw [Look.HoldsAt, Look.holds, Option.isNone_iff_eq_none, Array.getElem?_eq_none_iff]
    omega
  constructor
  · rintro ⟨place, hplace, last, _, ⟨hfirst, rfl⟩, _, hbody, hlast, rfl⟩
    obtain rfl := (hstart _ hplace).1 hfirst
    have hle := last_le_size hbody hplace
    rwa [← (hend _ hle).1 hlast]
  · intro hbody
    exact ⟨0, Nat.zero_le _, text.size, 0, ⟨(hstart 0 (Nat.zero_le _)).2 rfl, rfl⟩,
      text.size, hbody,
      (hend _ (Nat.le_refl _)).2 rfl, rfl⟩

end Regex

end GrammarBrew
