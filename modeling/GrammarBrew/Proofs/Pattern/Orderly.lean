import GrammarBrew.Proofs.Pattern.Progress
import GrammarBrew.Proofs.Pattern.Property
import GrammarBrew.Proofs.Regex.Meaning

/-!
What a pattern gives. Its sets are orderly, its repetitions do not ask for more than they allow, and
its groups are counted from one, so that no group of a pattern has the number of the whole match.
-/

set_option autoImplicit false
set_option relaxedAutoImplicit false

namespace GrammarBrew.Pattern

/-! ### Sets -/

private theorem orderly_fold {unicode : Bool} {set : CharSet} (h : set.Orderly) :
    (fold unicode set).Orderly := by
  unfold fold
  split
  · exact h
  · exact ⟨h, ⟨h, CharSet.orderly_ascii⟩, CharSet.orderly_ascii⟩

private theorem orderly_complement {unicode : Bool} {set : CharSet} (h : set.Orderly) :
    (complement unicode set).Orderly := by
  unfold complement
  split
  · exact h
  · exact ⟨CharSet.orderly_bytes, h⟩

private theorem orderly_foldAndNegate {flags : Flags} {negated : Bool} {set : CharSet}
    (h : set.Orderly) :
    (foldAndNegate flags negated set).Orderly := by
  have hfolded : (if flags.ignoreCase then fold flags.unicode set else set).Orderly := by
    split
    · exact orderly_fold h
    · exact h
  unfold foldAndNegate
  dsimp only
  split
  · exact orderly_complement hfolded
  · exact hfolded

private theorem yields_finishSet {negated : Bool} {set : CharSet} (h : set.Orderly) :
    Yields (finishSet negated set) CharSet.Orderly := by
  unfold finishSet
  exact .after fun _ => yields_unless (yields_pure (orderly_foldAndNegate h))

def Primitive.Orderly : Primitive → Prop
  | chars set => set.Orderly
  | literal _ | byte _ | condition _ => True

private theorem yields_propertyNamed (flags : Flags) (negated : Bool) (name : Text) :
    Yields (propertyNamed flags negated name) CharSet.Orderly := by
  unfold propertyNamed
  refine yields_unless ?_
  dsimp only
  split
  next isLeftOut set hset => exact yields_pure (orderly_foldAndNegate (orderly_of_property? hset))
  next => exact yields_fail

private theorem yields_propertyEscape : Yields propertyEscape CharSet.Orderly := by
  have hnamed := yields_propertyNamed
  unfold propertyEscape
  refine .after fun _ => .after fun _ => .after fun reading => .after fun c => ?_
  dsimp only
  split
  · exact .after fun _ => .after fun name => hnamed _ _ name
  · exact .after fun _ => hnamed _ _ _
  · exact .after fun _ => .after fun name => hnamed _ _ name

private theorem yields_letterClass (letter : Char) :
    Yields (letterClass letter) CharSet.Orderly := by
  have hset : (if letter.toLower = 'd' then Property.digits
      else if letter.toLower = 's' then CharSet.blanks else CharSet.words).Orderly := by
    split_ifs
    · exact orderly_digits
    · exact orderly_blanks
    · exact orderly_words
  unfold letterClass
  refine .after fun _ => ?_
  dsimp only
  generalize (if letter.toLower = 'd' then Property.digits
    else if letter.toLower = 's' then CharSet.blanks else CharSet.words) = set at hset ⊢
  refine yields_ite (yields_pure ?_)
    (yields_ite yields_fail (yields_pure ⟨hset, CharSet.orderly_ascii⟩))
  split <;> exact hset

private theorem yields_hexEscape : Yields hexEscape Primitive.Orderly := by
  unfold hexEscape
  refine .after fun letter => .after fun _ => .after fun c => ?_
  split
  · exact .after fun _ => .after fun _ => .after fun _ =>
      yields_ite yields_fail (.after fun _ => yields_pure trivial)
  · exact .after fun _ => .after fun _ => .after fun _ =>
      yields_ite (yields_pure trivial) (yields_pure trivial)

private theorem yields_escape : Yields escape Primitive.Orderly := by
  unfold escape
  refine .after fun _ => .after fun c => .after fun _ => ?_
  refine yields_ite yields_fail
    (yields_ite yields_hexEscape (yields_ite ?_ (.after fun _ => yields_ite ?_ ?_)))
  · exact yields_propertyEscape.bind fun set hset => yields_pure hset
  · exact (yields_letterClass c).bind fun set hset => yields_pure hset
  · split
    all_goals first
      | exact yields_pure trivial
      | exact .after fun _ => yields_pure trivial
      | exact yields_ite yields_fail (yields_pure trivial)

/-! ### Classes -/

private theorem yields_classItem : Yields classItem Primitive.Orderly := by
  unfold classItem
  refine .after fun c => ?_
  split
  · exact yields_escape
  · exact .after fun _ => yields_pure trivial

private theorem yields_itemSet {item : Primitive} (h : item.Orderly) :
    Yields (itemSet item) CharSet.Orderly := by
  unfold itemSet
  cases item with
  | literal c => exact .after fun _ => yields_unless (yields_pure (CharSet.orderly_single c))
  | byte c => exact yields_pure (CharSet.orderly_single c)
  | chars set => exact yields_pure h
  | condition place => exact yields_fail

private theorem yields_classRange : Yields classRange CharSet.Orderly := by
  unfold classRange
  refine yields_classItem.bind fun first hfirst => .after fun _ => .after fun _ =>
    .after fun _ => ?_
  refine yields_ite (yields_itemSet hfirst) ?_
  refine .after fun _ => .after fun _ => .after fun last => .after fun low => .after fun high => ?_
  dsimp only
  split
  · exact (yields_never).bind fun _ h => h.elim
  next hle => exact .after fun _ => .after fun _ => yields_pure (Char.not_lt.1 hle)

def Waiting (pending : Option (ClassOp × Class)) : Prop :=
  ∀ waiting ∈ pending, waiting.2.set.Orderly

private theorem Waiting.applyOp {pending : Option (ClassOp × Class)} (h : Waiting pending)
    {right : Class}
    (hright : right.set.Orderly) : (applyOp pending right).set.Orderly := by
  cases pending with
  | none => exact hright
  | some waiting =>
    obtain ⟨op, left⟩ := waiting
    have hleft : left.set.Orderly := h _ rfl
    cases op with
    | inter => exact ⟨hleft, hright⟩
    | diff => exact ⟨hleft, hright⟩
    | symmDiff => exact ⟨⟨hleft, hright⟩, hright, hleft⟩

private theorem yields_leadingHyphens (fuel : Nat) (items : Items) (h : items.set.Orderly) :
    Yields (leadingHyphens fuel items) fun items => items.set.Orderly := by
  induction fuel generalizing items with
  | zero => exact yields_pure h
  | succ fuel ih =>
    unfold leadingHyphens
    refine .after fun c => ?_
    split
    · exact .after fun _ => ih _ ⟨h, CharSet.orderly_single _⟩
    · exact yields_pure h

private theorem orderly_of_namedClass? {text rest : Text} {negated : Bool} {set : CharSet}
    (h : namedClass? text = some (negated, set, rest)) : set.Orderly := by
  unfold namedClass? at h
  split at h
  · dsimp only at h
    split at h
    · obtain ⟨found, hfound, heq⟩ := Option.map_eq_some_iff.1 h
      obtain rfl := (Prod.mk.inj (Prod.mk.inj heq).2).1
      exact orderly_of_asciiClass? hfound
    · cases h
  · cases h

def ClassesOrderly (fuel : Nat) : Prop :=
  Yields (bracketed fuel) (fun found => found.set.Orderly) ∧ ∀ pending items, Waiting pending →
    items.set.Orderly → Yields (classBody fuel pending items) fun found => found.set.Orderly

private theorem yields_bracketed_succ {fuel : Nat} (h : ClassesOrderly fuel) :
    Yields (bracketed (fuel + 1)) fun found => found.set.Orderly := by
  have hpure : ∀ {items : Items}, items.set.Orderly → Yields (pure items) fun items :
      Items => items.set.Orderly :=
    fun hitems => yields_pure hitems
  unfold bracketed
  refine .after fun _ => .after fun c => yields_optional fun _ => .after fun reading => ?_
  refine (yields_leadingHyphens _ {} trivial).bind fun hyphens hhyphens => .after fun _ => ?_
  have hbracket : (hyphens.add ⟨.single ']', 0⟩).set.Orderly := ⟨hhyphens, CharSet.orderly_single _⟩
  refine yields_ite (.after fun _ => (hpure hbracket).bind ?_) ((hpure hhyphens).bind ?_)
  all_goals
    intro start hstart
    refine (h.2 none start (fun _ hnone => by cases hnone) hstart).bind fun body hbody => ?_
    exact (yields_finishSet hbody).bind fun set hset => yields_pure hset

private theorem yields_classBody_succ {fuel : Nat} (h : ClassesOrderly fuel)
    {pending : Option (ClassOp × Class)}
    {items : Items} (hpending : Waiting pending) (hitems : items.set.Orderly) :
    Yields (classBody (fuel + 1) pending items) fun found => found.set.Orderly := by
  have hoperand : ∀ flags : Flags, (applyOp pending
      ⟨foldAndNegate flags false items.set, items.depthTogether⟩).set.Orderly := fun flags =>
    hpending.applyOp (orderly_foldAndNegate hitems : CharSet.Orderly
      (foldAndNegate flags false items.set))
  have hitem : ∀ {item : Class}, item.set.Orderly →
      Yields (classBody fuel pending (items.add item)) fun found => found.set.Orderly :=
    fun hitem => h.2 _ _ hpending ⟨hitems, hitem⟩
  have hwait : ∀ (op : ClassOp) (flags : Flags), Yields (classBody fuel (some (op, applyOp pending
      ⟨foldAndNegate flags false items.set, items.depthTogether⟩)) {}) fun found =>
        found.set.Orderly := by
    intro op flags
    refine h.2 _ _ (fun waiting hwaiting => ?_) trivial
    obtain rfl := Option.some.inj hwaiting
    exact hoperand flags
  unfold classBody
  refine .after fun _ => .after fun c => .after fun reading => yields_ite (.after fun _ => ?_) ?_
  · split
    next negated set rest hnamed =>
      exact .after fun _ => (yields_finishSet (orderly_of_namedClass? hnamed)).bind
        fun named hset => hitem hset
    next => exact h.1.bind fun inner hinner => hitem hinner
  · refine yields_ite (.after fun _ => yields_pure ?_) (.after fun _ => yields_ite (hwait _ _) ?_)
    · split
      · exact hitems
      · exact hoperand _
    · refine .after fun _ => yields_ite (hwait _ _) (.after fun _ => yields_ite (hwait _ _) ?_)
      exact yields_classRange.bind fun item hset => hitem hset

private theorem classesOrderly (fuel : Nat) : ClassesOrderly fuel := by
  induction fuel with
  | zero => exact ⟨yields_fail, fun _ _ _ _ => yields_fail⟩
  | succ fuel ih => exact ⟨yields_bracketed_succ ih, fun _ _ => yields_classBody_succ ih⟩

/-! ### Parts and branches -/

private theorem orderly_sequence {parts : List Part}
    (h : ∀ part ∈ parts, ∀ regex ∈ part.regex?, regex.Orderly) :
    (sequence parts).1.Orderly := by
  have hall : ∀ regex ∈ parts.filterMap Part.regex?, regex.Orderly := by
    intro regex hregex
    obtain ⟨part, hpart, hsome⟩ := List.mem_filterMap.1 hregex
    exact h part hpart regex hsome
  unfold sequence
  dsimp only
  split
  · exact trivial
  next last before heq =>
    rw [heq] at hall
    obtain ⟨hlast, hbefore⟩ := List.forall_mem_cons.1 hall
    exact List.foldlRecOn before _ hlast fun after hafter part hpart => ⟨hbefore part hpart, hafter⟩

private theorem orderly_choice {branches : List (Regex × Nat)}
    (h : ∀ branch ∈ branches, branch.1.Orderly) :
    (choice branches).1.Orderly := by
  unfold choice
  dsimp only
  split
  · exact trivial
  · exact h _ List.mem_cons_self
  next last before _ =>
    obtain ⟨hlast, hbefore⟩ := List.forall_mem_cons.1 h
    exact List.foldlRecOn before _ hlast fun after hafter branch hbranch =>
      ⟨hbefore branch hbranch, hafter⟩

/-! ### Reading -/

private theorem yields_nextGroup : Yields nextGroup fun number => 0 < number := by
  intro reading number after hrun
  obtain rfl := congrArg Prod.fst (Except.ok.inj hrun)
  exact Nat.succ_pos _

private theorem yields_opening :
    Yields opening fun opening => ∀ number flags, opening = .group number flags →
      ∀ n ∈ number, 0 < n := by
  have hnumbered : ∀ number flags, 0 < number → ∀ number' flags',
      Opening.group (some number) flags = .group number' flags' → ∀ n ∈ number', 0 < n := by
    rintro number flags hpos _ _ ⟨rfl, rfl⟩ n hn
    obtain rfl := Option.some.inj hn
    exact hpos
  unfold opening
  refine .after fun _ => .after fun reading =>
    yields_unless (.after fun _ => yields_either fun named => ?_)
  refine yields_ite (yields_nextGroup.bind fun number hpos => ?_) (.after fun _ => ?_)
  · exact .after fun _ => .after fun _ =>
      yields_unless (.after fun _ => yields_pure (hnumbered number _ hpos))
  · refine yields_ite (.after fun _ => .after fun _ => .after fun _ => ?_) ?_
    · refine yields_ite (yields_ite yields_fail (yields_pure ?_)) (yields_pure ?_)
      · rintro _ _ ⟨⟩
      · rintro _ _ ⟨rfl, rfl⟩ _ ⟨⟩
    · exact yields_nextGroup.bind fun number hpos => yields_pure (hnumbered number _ hpos)

private theorem yields_countsEnd (least : Nat) (most : Option Nat) :
    Yields (countsEnd least most) fun range => ∀ bound ∈ range.2, range.1 ≤ bound := by
  unfold countsEnd
  refine .after fun _ => yields_unless (.after fun _ => ?_)
  split
  · exact yields_never.bind fun _ h => h.elim
  next hnone =>
    refine yields_pure fun bound hbound => ?_
    obtain rfl : most = some bound := hbound
    simpa using hnone

private theorem yields_counts : Yields counts fun range => ∀ bound ∈ range.2, range.1 ≤ bound := by
  rw [counts_eq]
  refine .after fun _ => .after fun least => .after fun _ =>
    yields_ite (.after fun _ => .after fun _ => ?_) ?_
  · exact yields_either (yields_countsEnd least)
  · exact .after (yields_countsEnd least)

private theorem yields_literal (c : Char) : Yields (literal c) Regex.Orderly := by
  have hsingle := CharSet.orderly_single c
  unfold literal
  exact .after fun _ => yields_ite (yields_pure (orderly_foldAndNegate hsingle))
    (yields_pure hsingle)

private theorem yields_anyChar : Yields anyChar Regex.Orderly := by
  have hends : ∀ flags : Flags, (if flags.dotMatchesNewline then CharSet.nothing
      else if flags.crlf then .union (.single '\n') (.single '\r') else .single '\n').Orderly := by
    intro flags
    split_ifs
    · exact trivial
    · exact ⟨CharSet.orderly_single _, CharSet.orderly_single _⟩
    · exact CharSet.orderly_single _
  unfold anyChar
  exact .after fun _ => yields_unless (yields_pure (hends _))

def BranchesOrderly (fuel : Nat) : Prop :=
  ∀ seen : List (Regex × Nat), (∀ branch ∈ seen, branch.1.Orderly) →
    Yields (branches fuel seen) fun found => found.1.Orderly

def PartsOrderly (fuel : Nat) : Prop :=
  ∀ seen : List Part, (∀ part ∈ seen, ∀ regex ∈ part.regex?, regex.Orderly) →
    Yields (parts fuel seen) fun found => found.1.Orderly

section

variable {fuel : Nat} {seen before : List Part} {regex : Regex} {depth least : Nat}
  {most : Option Nat}

private theorem PartsOrderly.goOn (h : PartsOrderly fuel)
    (hseen : ∀ part ∈ seen, ∀ regex ∈ part.regex?, regex.Orderly) (hregex : regex.Orderly) :
    Yields (parts fuel (⟨some regex, depth⟩ :: seen)) fun found => found.1.Orderly := by
  refine h _ (List.forall_mem_cons.2 ⟨?_, hseen⟩)
  rintro _ ⟨⟩
  exact hregex

private theorem PartsOrderly.repeatFrom (h : PartsOrderly fuel)
    (hseen : ∀ part ∈ ⟨some regex, depth⟩ :: before, ∀ regex ∈ part.regex?, regex.Orderly)
    (hbounds : ∀ bound ∈ most, least ≤ bound) :
    Yields (repeatFrom fuel regex depth before least most) fun found => found.1.Orderly := by
  obtain ⟨hregex, hbefore⟩ := List.forall_mem_cons.1 hseen
  exact .after fun greedy => h.goOn hbefore ⟨hregex regex rfl, hbounds⟩

private theorem PartsOrderly.repeatLast (h : PartsOrderly fuel)
    (hseen : ∀ part ∈ seen, ∀ regex ∈ part.regex?, regex.Orderly)
    (hbounds : ∀ bound ∈ most, least ≤ bound) :
    Yields (repeatLast fuel seen least most) fun found => found.1.Orderly := by
  unfold Pattern.repeatLast
  split
  · exact h.repeatFrom hseen hbounds
  · exact yields_fail

private theorem PartsOrderly.groupFrom (h : PartsOrderly fuel) (hbranches : BranchesOrderly fuel)
    {outer : Flags}
    {begun : Opening} (hseen : ∀ part ∈ seen, ∀ regex ∈ part.regex?, regex.Orderly)
    (hnumber : ∀ number flags, begun = .group number flags → ∀ n ∈ number, 0 < n) :
    Yields (groupFrom fuel seen outer begun) fun found => found.1.Orderly := by
  cases begun with
  | flags flags =>
    refine .after fun _ => h _ (List.forall_mem_cons.2 ⟨?_, hseen⟩)
    rintro _ ⟨⟩
  | group number flags =>
    refine .after fun _ => (hbranches [] (List.forall_mem_nil _)).bind fun body hbody => ?_
    refine .after fun _ => yields_unless (.after fun _ => .after fun _ => h.goOn hseen ?_)
    exact ⟨hnumber number flags rfl, hbody⟩

private theorem PartsOrderly.escapeFrom (h : PartsOrderly fuel) {found : Primitive}
    (hseen : ∀ part ∈ seen, ∀ regex ∈ part.regex?, regex.Orderly) (hfound : found.Orderly) :
    Yields (escapeFrom fuel seen found) fun found => found.1.Orderly := by
  cases found with
  | literal c => exact (yields_literal c).bind fun regex hregex => h.goOn hseen hregex
  | byte c => exact yields_fail
  | chars set => exact h.goOn hseen hfound
  | condition place => exact h.goOn hseen trivial

private theorem branchesOrderly_succ (hbranches : BranchesOrderly fuel)
    (hparts : PartsOrderly fuel) :
    BranchesOrderly (fuel + 1) := by
  intro seen hseen
  unfold branches
  refine (hparts [] (List.forall_mem_nil _)).bind fun branch hbranch => .after fun _ => ?_
  have hall : ∀ other ∈ branch :: seen, other.1.Orderly := List.forall_mem_cons.2 ⟨hbranch, hseen⟩
  exact yields_ite (hbranches _ hall) (yields_pure (orderly_choice hall))

private theorem partsOrderly_succ (hbranches : BranchesOrderly fuel) (hparts : PartsOrderly fuel) :
    PartsOrderly (fuel + 1) := by
  intro seen hseen
  have hsequence : Yields (pure (sequence seen)) fun found => found.1.Orderly :=
    yields_pure (orderly_sequence hseen)
  unfold parts
  refine .after fun _ => .after fun c? => ?_
  dsimp only
  split
  -- The end of the sequence, a bar and a closing parenthesis.
  · exact hsequence
  · exact hsequence
  · exact hsequence
  · refine .after fun reading => yields_opening.bind fun begun hnumber => ?_
    exact hparts.groupFrom hbranches hseen hnumber
  · exact (classesOrderly fuel).1.bind fun found hset => hparts.goOn hseen hset
  -- The four ways to repeat a part.
  · exact .after fun _ => hparts.repeatLast hseen fun _ _ => Nat.zero_le _
  · exact .after fun _ => hparts.repeatLast hseen fun _ _ => Nat.zero_le _
  · exact .after fun _ => hparts.repeatLast hseen fun _ hnone => by cases hnone
  · split
    · exact yields_counts.bind fun range hbounds => hparts.repeatFrom hseen hbounds
    · exact yields_fail
  · exact yields_escape.bind fun found hfound => hparts.escapeFrom hseen hfound
  · exact .after fun _ => yields_anyChar.bind fun regex hregex => hparts.goOn hseen hregex
  · exact .after fun _ => .after fun _ => hparts.goOn hseen trivial
  · exact .after fun _ => .after fun _ => hparts.goOn hseen trivial
  · exact .after fun _ => (yields_literal _).bind fun regex hregex => hparts.goOn hseen hregex

end

private theorem branchesOrderly_and_partsOrderly (fuel : Nat) :
    BranchesOrderly fuel ∧ PartsOrderly fuel := by
  induction fuel with
  | zero => exact ⟨fun seen _ => yields_fail, fun seen _ => yields_fail⟩
  | succ fuel ih => exact ⟨branchesOrderly_succ ih.1 ih.2, partsOrderly_succ ih.1 ih.2⟩

theorem orderly_of_read {pattern : Text} {regex : Regex} (h : read pattern = .ok regex) :
    regex.Orderly := by
  obtain ⟨depth, ⟨after, hrun, -⟩, -⟩ := read_eq_ok_iff.1 h
  exact (branchesOrderly_and_partsOrderly _).1 [] (List.forall_mem_nil _) hrun

private theorem orderly_of_parse {pattern : Text} {regex : Regex} (h : parse pattern = .ok regex) :
    regex.Orderly :=
  orderly_of_read (parse_eq_ok_iff.1 h).1

private theorem counted_of_orderly {regex : Regex} (h : regex.Orderly) :
    ∀ number ∈ regex.numbers, 0 < number := by
  induction regex with
  | empty | set chars | look condition => exact List.forall_mem_nil _
  | seq first second hfirst hsecond | alt first second hfirst hsecond =>
    exact List.forall_mem_append.2 ⟨hfirst h.1, hsecond h.2⟩
  | rep body least most greedy hbody => exact hbody h.1
  | group number body hbody =>
    exact List.forall_mem_append.2 ⟨fun n hn => h.1 n (Option.mem_toList.1 hn), hbody h.2⟩

theorem counted_of_parse {pattern : Text} {regex : Regex} (h : parse pattern = .ok regex) :
    ∀ number ∈ regex.numbers, 0 < number := counted_of_orderly (orderly_of_parse h)

end GrammarBrew.Pattern
