import GrammarBrew.Pattern.Parser
import GrammarBrew.Proofs.Pattern.Steps
import GrammarBrew.Proofs.Text.Cut

/-!
How far reading goes. Whatever stands for something in the pattern takes one character at least, and
leaves the end of what it found.
-/

set_option autoImplicit false
set_option relaxedAutoImplicit false

namespace GrammarBrew.Pattern

open Read

/-! ### Escapes -/

private theorem shrinks_scalar (n : Nat) : Shrinks (scalar n) :=
  shrinks_ite shrinks_pure shrinks_fail

private theorem consumes_hexInBraces (fuel : Nat) (digits : List Nat) :
    Consumes (hexInBraces fuel digits) := by
  induction fuel generalizing digits with
  | zero => exact consumes_fail
  | succ fuel ih =>
    unfold hexInBraces
    refine consumes_advanceSpace.bind fun _ => shrinks_next.bind fun c => ?_
    split
    · exact shrinks_pure
    · split
      · exact (ih _).shrinks
      · exact shrinks_fail

theorem shrinks_hexDigits (count : Nat) (digits : List Nat) : Shrinks (hexDigits count digits) := by
  induction count generalizing digits with
  | zero => exact shrinks_pure
  | succ count ih =>
    unfold hexDigits
    refine shrinks_next.bind fun c => ?_
    split
    · exact consumes_advanceSpace.shrinks.bind fun _ => ih _
    · exact shrinks_fail

private theorem consumes_hexEscape : Consumes hexEscape := by
  unfold hexEscape
  refine shrinks_next.then fun letter => consumes_advanceSpace.bind fun _ =>
    shrinks_next.bind fun c => ?_
  split
  · refine shrinks_get.bind fun _ => (consumes_hexInBraces _ _).shrinks.bind fun digits => ?_
    refine consumes_advanceSpace.shrinks.bind fun _ => shrinks_ite shrinks_fail ?_
    exact (shrinks_scalar _).bind fun _ => shrinks_pure
  · refine (shrinks_hexDigits _ _).bind fun digits => (shrinks_scalar _).bind fun c => ?_
    exact shrinks_get.bind fun _ => shrinks_ite shrinks_pure shrinks_pure

theorem shrinks_finishSet (negated : Bool) (set : CharSet) : Shrinks (finishSet negated set) :=
  shrinks_get.bind fun _ => shrinks_unless shrinks_pure

theorem consumes_propertyInBraces (fuel : Nat) (name : Text) :
    Consumes (propertyInBraces fuel name) := by
  induction fuel generalizing name with
  | zero => exact consumes_fail
  | succ fuel ih =>
    unfold propertyInBraces
    refine consumes_advanceSpace.bind fun _ => shrinks_next.bind fun c => ?_
    split
    · exact consumes_advance.shrinks.bind fun _ => shrinks_pure
    · exact (ih _).shrinks

def propertyNamed (flags : Flags) (negated : Bool) (name : Text) : Read CharSet := do
  if !flags.unicode then Read.fail .notText
  match property? name with
  | some (isLeftOut, set) => return foldAndNegate flags (negated != isLeftOut) set
  | none => Read.fail .unknownProperty

private theorem shrinks_propertyNamed (flags : Flags) (negated : Bool) (name : Text) :
    Shrinks (propertyNamed flags negated name) := by
  unfold propertyNamed
  refine shrinks_unless ?_
  dsimp only
  split
  · exact shrinks_pure
  · exact shrinks_fail

private theorem consumes_propertyEscape : Consumes propertyEscape := by
  have hnamed := shrinks_propertyNamed
  unfold propertyEscape
  refine shrinks_next.then fun letter => consumes_advanceSpace.bind fun _ =>
    shrinks_get.bind fun reading => ?_
  refine shrinks_next.bind fun c => ?_
  dsimp only
  split
  · exact shrinks_get.bind fun _ => (consumes_propertyInBraces _ _).shrinks.bind fun name =>
      hnamed _ _ name
  · exact consumes_failed.shrinks
  · exact consumes_advanceSpace.shrinks.bind fun _ => shrinks_pure.bind fun name => hnamed _ _ name

private theorem shrinks_letterClass (letter : Char) : Shrinks (letterClass letter) := by
  unfold letterClass
  refine shrinks_get.bind fun _ => ?_
  dsimp only
  exact shrinks_ite shrinks_pure (shrinks_ite shrinks_fail shrinks_pure)

private theorem shrinks_wordEdgeName (fuel : Nat) (name : Text) :
    Shrinks (wordEdgeName fuel name) := by
  induction fuel generalizing name with
  | zero => exact shrinks_fail
  | succ fuel ih =>
    unfold wordEdgeName
    refine shrinks_peek.bind fun c? => ?_
    split
    · exact consumes_advance.shrinks.bind fun _ => shrinks_pure
    · exact shrinks_ite (consumes_advanceSpace.shrinks.bind fun _ => ih _) shrinks_fail
    · exact shrinks_fail

def edgeNamed (unicode : Bool) (name : Text) : Read Look :=
  match String.ofList name with
  | "start" => return .wordStart unicode
  | "end" => return .wordEnd unicode
  | "start-half" => return .noWordBefore unicode
  | "end-half" => return .noWordAfter unicode
  | _ => Read.fail .badEscape

private theorem shrinks_edgeNamed (unicode : Bool) (name : Text) :
    Shrinks (edgeNamed unicode name) := by
  unfold edgeNamed
  split
  all_goals first
    | exact shrinks_pure
    | exact shrinks_fail

theorem wordEdge_of_head?_ne {reading : Reading} (h : reading.rest.head? ≠ some '\x7b') :
    wordEdge reading = .ok (.wordEdge reading.flags.unicode, reading) := by
  obtain ⟨rest, flags, groups, names⟩ := reading
  cases rest with
  | nil => rfl
  | cons c rest =>
    have hc : c ≠ '\x7b' := by simpa using h
    have hget : get (m := Read) ⟨c :: rest, flags, groups, names⟩
        = .ok (⟨c :: rest, flags, groups, names⟩, ⟨c :: rest, flags, groups, names⟩) := rfl
    rw [wordEdge, bind_of_ok hget, bind_of_ok hget]
    simp only [List.cons.injEq, hc, false_and, imp_self, implies_true]
    rfl

private theorem shrinks_wordEdge : Shrinks wordEdge := by
  intro reading look after hrun
  by_cases hbrace : reading.rest.head? = some '\x7b'
  · obtain ⟨rest, flags, groups, names⟩ := reading
    obtain ⟨more, rfl⟩ := List.head?_eq_some_iff.1 hbrace
    unfold wordEdge at hrun
    obtain ⟨_, _, hget, hrun⟩ := exists_of_bind_eq_ok hrun
    obtain ⟨rfl, rfl⟩ := Prod.mk.inj (Except.ok.inj hget)
    obtain ⟨_, _, hget, hrun⟩ := exists_of_bind_eq_ok hrun
    obtain ⟨rfl, rfl⟩ := Prod.mk.inj (Except.ok.inj hget)
    obtain ⟨_, between, hspace, hrun⟩ := exists_of_bind_eq_ok hrun
    obtain ⟨c, _, hnext, hrun⟩ := exists_of_bind_eq_ok hrun
    split at hrun
    · exact ((shrinks_wordEdgeName _ _).bind (shrinks_edgeNamed _) hrun).trans
        ((shrinks_next hnext).trans (consumes_advanceSpace.shrinks hspace))
    -- The state of before is taken up again.
    · obtain rfl := congrArg Prod.snd (Except.ok.inj hrun)
      exact List.suffix_refl _
  · rw [wordEdge_of_head?_ne hbrace] at hrun
    obtain rfl := congrArg Prod.snd (Except.ok.inj hrun)
    exact List.suffix_refl _

theorem consumes_escape : Consumes escape := by
  unfold escape
  refine consumes_advance.bind fun _ => shrinks_next.bind fun c =>
    shrinks_get.bind fun reading => ?_
  refine shrinks_ite shrinks_fail (shrinks_ite consumes_hexEscape.shrinks (shrinks_ite ?_ ?_))
  · exact consumes_propertyEscape.shrinks.bind fun _ => shrinks_pure
  · refine consumes_advance.shrinks.bind fun _ => shrinks_ite ?_ ?_
    · exact (shrinks_letterClass c).bind fun _ => shrinks_pure
    · split
      all_goals first
        | exact shrinks_pure
        | exact shrinks_wordEdge.bind fun _ => shrinks_pure
        | exact shrinks_ite shrinks_fail shrinks_pure

/-! ### Classes -/

theorem consumes_classItem : Consumes classItem := by
  unfold classItem
  refine shrinks_next.then fun c => ?_
  split
  · exact consumes_escape
  · exact consumes_advance.bind fun _ => shrinks_pure

private theorem shrinks_rangeEnd (item : Primitive) : Shrinks (rangeEnd item) := by
  cases item with
  | literal c | byte c => exact shrinks_pure
  | chars set | condition place => exact shrinks_fail

theorem shrinks_itemSet (item : Primitive) : Shrinks (itemSet item) := by
  cases item with
  | literal c => exact shrinks_get.bind fun _ => shrinks_unless shrinks_pure
  | byte c | chars set => exact shrinks_pure
  | condition place => exact shrinks_fail

private theorem shrinks_peekBeyondHyphen : Shrinks peekBeyondHyphen :=
  shrinks_get.bind fun _ => shrinks_pure

def rangeBetween (first last : Primitive) : Read CharSet := do
  let low ← rangeEnd first
  let high ← rangeEnd last
  if high < low then Read.fail .badRange
  let _ ← itemSet first
  let _ ← itemSet last
  return .range low high

def rangeFrom (first : Primitive) : Read CharSet := do
  skipSpace
  let hyphen ← next
  let beyond ← peekBeyondHyphen
  if hyphen != '-' || beyond == some ']' || beyond == some '-' then itemSet first
  else
    advanceSpace
    let _ ← next
    let last ← classItem
    rangeBetween first last

theorem classRange_eq : classRange = classItem >>= rangeFrom := rfl

theorem shrinks_rangeBetween (first last : Primitive) : Shrinks (rangeBetween first last) := by
  unfold rangeBetween
  refine (shrinks_rangeEnd first).bind fun low => (shrinks_rangeEnd last).bind fun high =>
    shrinks_unless ?_
  exact (shrinks_itemSet first).bind fun _ => (shrinks_itemSet last).bind fun _ => shrinks_pure

theorem shrinks_rangeFrom (first : Primitive) : Shrinks (rangeFrom first) := by
  unfold rangeFrom
  refine shrinks_skipSpace.bind fun _ => shrinks_next.bind fun hyphen =>
    shrinks_peekBeyondHyphen.bind fun beyond => ?_
  refine shrinks_ite (shrinks_itemSet first) (consumes_advanceSpace.shrinks.bind fun _ =>
    shrinks_next.bind fun _ => ?_)
  exact consumes_classItem.shrinks.bind fun last => shrinks_rangeBetween first last

theorem consumes_classRange : Consumes classRange := by
  rw [classRange_eq]
  exact consumes_classItem.bind shrinks_rangeFrom

theorem shrinks_leadingHyphens (fuel : Nat) (items : Items) :
    Shrinks (leadingHyphens fuel items) := by
  induction fuel generalizing items with
  | zero => exact shrinks_pure
  | succ fuel ih =>
    unfold leadingHyphens
    refine shrinks_next.bind fun c => ?_
    split
    · exact consumes_advanceSpace.shrinks.bind fun _ => ih _
    · exact shrinks_pure

def classFrom (fuel : Nat) (negated : Bool) (items : Items) : Read Class := do
  let body ← classBody fuel none items
  return ⟨← finishSet negated body.set, body.depth + 1⟩

def classStart (fuel : Nat) (negated : Bool) : Read Class := do
  let hyphens ← leadingHyphens (← get).rest.length {}
  if hyphens.count = 0 && (← next) == ']' then
    advanceSpace
    classFrom fuel negated (hyphens.add ⟨.single ']', 0⟩)
  else classFrom fuel negated hyphens

theorem bracketed_succ (fuel : Nat) : bracketed (fuel + 1) = (do
    advanceSpace
    let negated := (← next) == '^'
    if negated then advanceSpace
    classStart fuel negated) := by
  rw [bracketed]
  rfl

def classInner (fuel : Nat) (pending : Option (ClassOp × Class)) (items : Items) : Read Class := do
  match namedClass? (← get).rest with
  | some (negated, set, rest) =>
    modify fun reading => { reading with rest := rest }
    let named ← finishSet negated set
    classBody fuel pending (items.add ⟨named, 0⟩)
  | none =>
    let inner ← bracketed fuel
    classBody fuel pending (items.add inner)

def ClassesConsume (fuel : Nat) : Prop :=
  Consumes (bracketed fuel) ∧ ∀ pending items, Consumes (classBody fuel pending items)

section

variable {fuel : Nat}

theorem consumes_classFrom (h : ClassesConsume fuel) (negated : Bool) (items : Items) :
    Consumes (classFrom fuel negated items) :=
  (h.2 none items).bind fun body => (shrinks_finishSet negated body.set).bind fun _ => shrinks_pure

theorem consumes_classStart (h : ClassesConsume fuel) (negated : Bool) :
    Consumes (classStart fuel negated) := by
  unfold classStart
  refine shrinks_get.then fun reading => (shrinks_leadingHyphens _ _).then fun hyphens =>
    shrinks_next.then fun c => ?_
  have hfrom := consumes_classFrom h negated
  exact consumes_ite (consumes_advanceSpace.bind fun _ => (hfrom _).shrinks) (hfrom _)

end

private theorem consumes_bracketed_succ {fuel : Nat} (h : ClassesConsume fuel) :
    Consumes (bracketed (fuel + 1)) := by
  rw [bracketed_succ]
  refine consumes_advanceSpace.bind fun _ => shrinks_next.bind fun c => ?_
  exact shrinks_optional consumes_advanceSpace.shrinks fun _ => (consumes_classStart h _).shrinks

theorem suffix_of_namedClass? {text rest : Text} {negated : Bool} {set : CharSet}
    (h : namedClass? text = some (negated, set, rest)) : rest <:+ text.tail := by
  unfold namedClass? at h
  split at h
  next inner =>
    dsimp only at h
    split at h
    next name after hcut =>
      obtain ⟨found, -, heq⟩ := Option.map_eq_some_iff.1 h
      obtain rfl := (Prod.mk.inj (Prod.mk.inj heq).2).2
      have hnamed : (if (inner.head? == some '^') = true then inner.tail else inner) <:+
          ':' :: inner := by
        split
        · exact (List.tail_suffix _).trans (List.suffix_cons _ _)
        · exact List.suffix_cons _ _
      rw [(Text.cut_singleton_eq_some_iff.1 hcut).2] at hnamed
      exact List.IsSuffix.trans ⟨name ++ [':', ']'], by simp⟩ hnamed
    next => cases h
  next => cases h

private theorem consumes_classInner {fuel : Nat} (h : ClassesConsume fuel)
    (pending : Option (ClassOp × Class))
    (items : Items) : Consumes (classInner fuel pending items) := by
  intro reading found after hrun
  obtain ⟨_, _, hget, hrun⟩ := exists_of_bind_eq_ok hrun
  obtain ⟨rfl, rfl⟩ := Prod.mk.inj (Except.ok.inj hget)
  cases hnamed : namedClass? reading.rest with
  | some named =>
    obtain ⟨negated, set, rest⟩ := named
    rw [hnamed] at hrun
    obtain ⟨_, _, htake, hrun⟩ := exists_of_bind_eq_ok hrun
    obtain rfl := congrArg Prod.snd (Except.ok.inj htake)
    obtain ⟨named, between, hfinish, hrun⟩ := exists_of_bind_eq_ok hrun
    have hbefore := shrinks_finishSet _ _ hfinish
    exact ((h.2 _ _).shrinks hrun).trans (hbefore.trans (suffix_of_namedClass? hnamed))
  | none =>
    rw [hnamed] at hrun
    exact h.1.bind (fun inner => (h.2 _ _).shrinks) hrun

private theorem consumes_classBody_succ {fuel : Nat} (h : ClassesConsume fuel)
    (pending : Option (ClassOp × Class))
    (items : Items) : Consumes (classBody (fuel + 1) pending items) := by
  unfold classBody
  refine shrinks_skipSpace.then fun _ => shrinks_next.then fun c =>
    shrinks_get.then fun reading => ?_
  dsimp only
  refine consumes_ite (consumes_classInner h pending items) (consumes_ite ?_ ?_)
  · exact consumes_advance.bind fun _ => shrinks_pure
  · refine (shrinks_takeIf _).then fun _ => consumes_ite (h.2 _ _) ?_
    refine (shrinks_takeIf _).then fun _ => consumes_ite (h.2 _ _) ?_
    refine (shrinks_takeIf _).then fun _ => consumes_ite (h.2 _ _) ?_
    exact consumes_classRange.bind fun item => (h.2 _ _).shrinks

theorem classesConsume (fuel : Nat) : ClassesConsume fuel := by
  induction fuel with
  | zero => exact ⟨consumes_fail, fun _ _ => consumes_fail⟩
  | succ fuel ih => exact ⟨consumes_bracketed_succ ih, consumes_classBody_succ ih⟩

/-! ### Groups -/

theorem shrinks_flagList (fuel : Nat) (value : Bool) (seen : Text) (flags : Flags) :
    Shrinks (flagList fuel value seen flags) := by
  induction fuel generalizing value seen flags with
  | zero => exact shrinks_fail
  | succ fuel ih =>
    unfold flagList
    refine shrinks_next.bind fun c => shrinks_ite (shrinks_ite shrinks_fail shrinks_pure) ?_
    refine shrinks_ite shrinks_fail
      (shrinks_ite (consumes_advance.shrinks.bind fun _ => ih _ _ _) ?_)
    split
    · exact shrinks_fail
    · exact consumes_advance.shrinks.bind fun _ => ih _ _ _

theorem consumes_groupName (fuel : Nat) (name : Text) : Consumes (groupName fuel name) := by
  induction fuel generalizing name with
  | zero => exact consumes_fail
  | succ fuel ih =>
    unfold groupName
    refine shrinks_next.then fun c => consumes_ite ?_ (consumes_ite ?_ consumes_fail)
    · exact consumes_advance.bind fun _ => shrinks_ite shrinks_fail shrinks_pure
    · exact consumes_advance.bind fun _ => (ih _).shrinks

private theorem shrinks_nextGroup : Shrinks nextGroup := by
  unfold nextGroup
  refine Shrinks.bind (shrinks_modify ?_) fun _ => shrinks_get.bind fun _ => shrinks_pure
  exact fun _ => List.suffix_refl _

def namedOpening (fuel : Nat) (flags : Flags) : Read Opening := do
  let number ← nextGroup
  let name ← groupName fuel []
  if (← get).names.contains name then Read.fail .badGroupName
  modify fun reading => { reading with names := name :: reading.names }
  return .group (some number) flags

def flagOpening (fuel : Nat) (flags : Flags) : Read Opening := do
  let (seen, flags) ← flagList fuel true [] flags
  let last ← next
  advance
  if last = ')' then
    if seen.isEmpty then Read.fail .nothingToRepeat else return .flags flags
  else return .group none flags

def openingOf (fuel : Nat) (flags : Flags) (named : Bool) : Read Opening := do
  if named then namedOpening fuel flags
  else if (← takeIf "?") then flagOpening fuel flags
  else return .group (some (← nextGroup)) flags

def openingRest : Read Opening := do
  let reading ← get
  let begins (text : String) : Bool := text.toList.isPrefixOf reading.rest
  if begins "?=" || begins "?!" || begins "?<=" || begins "?<!" then Read.fail .lookAround
  let named ← takeIf "?P<"
  let named ← if named then pure true else takeIf "?<"
  openingOf reading.rest.length reading.flags named

theorem opening_eq : opening = advanceSpace >>= fun _ => openingRest := rfl

private theorem shrinks_namedOpening (fuel : Nat) (flags : Flags) :
    Shrinks (namedOpening fuel flags) := by
  unfold namedOpening
  refine shrinks_nextGroup.bind fun number => (consumes_groupName _ _).shrinks.bind fun name => ?_
  refine shrinks_get.bind fun _ =>
    shrinks_unless (Shrinks.bind (shrinks_modify ?_) fun _ => shrinks_pure)
  exact fun _ => List.suffix_refl _

private theorem consumes_flagOpening (fuel : Nat) (flags : Flags) :
    Consumes (flagOpening fuel flags) := by
  unfold flagOpening
  refine (shrinks_flagList _ _ _ _).then fun _ => shrinks_next.then fun last =>
    consumes_advance.bind fun _ => ?_
  exact shrinks_ite (shrinks_ite shrinks_fail shrinks_pure) shrinks_pure

private theorem shrinks_openingOf (fuel : Nat) (flags : Flags) (named : Bool) :
    Shrinks (openingOf fuel flags named) := by
  unfold openingOf
  refine shrinks_ite (shrinks_namedOpening fuel flags) ((shrinks_takeIf _).bind fun _ => ?_)
  exact shrinks_ite (consumes_flagOpening fuel flags).shrinks
    (shrinks_nextGroup.bind fun _ => shrinks_pure)

theorem shrinks_openingRest : Shrinks openingRest := by
  unfold openingRest
  refine shrinks_get.bind fun reading => shrinks_unless ((shrinks_takeIf _).bind fun named => ?_)
  exact shrinks_either shrinks_pure (shrinks_takeIf _) (shrinks_openingOf _ _)

theorem consumes_opening : Consumes opening := by
  rw [opening_eq]
  exact consumes_advanceSpace.bind fun _ => shrinks_openingRest

/-! ### Parts and branches -/

theorem shrinks_digits (fuel : Nat) (seen : List Nat) : Shrinks (decimal.digits fuel seen) := by
  induction fuel generalizing seen with
  | zero => exact shrinks_pure
  | succ fuel ih =>
    unfold decimal.digits
    refine shrinks_peek.bind fun c? => ?_
    split
    · exact shrinks_ite (consumes_advanceSpace.shrinks.bind fun _ => ih _) shrinks_pure
    · exact shrinks_pure

theorem shrinks_decimal : Shrinks decimal := by
  unfold decimal
  refine shrinks_skipBlanks.bind fun _ => shrinks_get.bind fun _ => (shrinks_digits _ _).bind
    fun seen => ?_
  exact shrinks_skipBlanks.bind fun _ => shrinks_ite shrinks_fail shrinks_pure

def countsEnd (least : Nat) (most : Option Nat) : Read (Nat × Option Nat) := do
  if (← next) != '\x7d' then Read.fail .unfinished
  advanceSpace
  if most.any fun most => decide (most < least) then Read.fail .badCount
  return (least, most)

def countsFrom (least : Nat) : Read (Nat × Option Nat) := do
  let comma ← next
  let most ← if comma = ',' then do
      advanceSpace
      if (← next) = '\x7d' then pure none else some <$> decimal
    else pure (some least)
  countsEnd least most

theorem counts_eq : counts = advanceSpace >>= fun _ => decimal >>= countsFrom := rfl

theorem shrinks_countsEnd (least : Nat) (most : Option Nat) : Shrinks (countsEnd least most) := by
  unfold countsEnd
  refine shrinks_next.bind fun _ => shrinks_unless (consumes_advanceSpace.shrinks.bind fun _ => ?_)
  exact shrinks_unless shrinks_pure

theorem shrinks_countsFrom (least : Nat) : Shrinks (countsFrom least) := by
  unfold countsFrom
  refine shrinks_next.bind fun comma =>
    shrinks_ite (consumes_advanceSpace.shrinks.bind fun _ => ?_) ?_
  · refine shrinks_next.bind fun c => shrinks_either shrinks_pure ?_ (shrinks_countsEnd least)
    exact shrinks_decimal.bind fun _ => shrinks_pure
  · exact shrinks_pure.bind (shrinks_countsEnd least)

theorem consumes_counts : Consumes counts := by
  rw [counts_eq]
  exact consumes_advanceSpace.bind fun _ => shrinks_decimal.bind shrinks_countsFrom

theorem shrinks_greed : Shrinks greed :=
  (shrinks_takeIf _).bind fun _ => shrinks_get.bind fun _ => shrinks_pure

theorem shrinks_literal (c : Char) : Shrinks (literal c) :=
  shrinks_get.bind fun _ => shrinks_ite shrinks_pure shrinks_pure

private theorem shrinks_anyChar : Shrinks anyChar :=
  shrinks_get.bind fun _ => shrinks_unless shrinks_pure

def groupFrom (fuel : Nat) (seen : List Part) (outer : Flags) : Opening → Read (Regex × Nat)
  | .flags flags => do
    modify fun reading => { reading with flags := flags }
    parts fuel (⟨none, 0⟩ :: seen)
  | .group number flags => do
    modify fun reading => { reading with flags := flags }
    let (body, depth) ← branches fuel []
    if (← next) != ')' then Read.fail .unfinished
    modify fun reading => { reading with flags := outer }
    advance
    parts fuel (⟨some (.group number body), depth + 1⟩ :: seen)

def repeatFrom (fuel : Nat) (regex : Regex) (depth : Nat) (before : List Part) (least : Nat)
    (most : Option Nat) :
    Read (Regex × Nat) := do
  parts fuel (⟨some (.rep regex least most (← greed)), depth + 1⟩ :: before)

def repeatLast (fuel : Nat) (seen : List Part) (least : Nat) (most : Option Nat) :
    Read (Regex × Nat) :=
  match seen with
  | ⟨some regex, depth⟩ :: before => repeatFrom fuel regex depth before least most
  | _ => Read.fail .nothingToRepeat

def escapeFrom (fuel : Nat) (seen : List Part) : Primitive → Read (Regex × Nat)
  | .literal c => do parts fuel (⟨some (← literal c), 0⟩ :: seen)
  | .byte _ => Read.fail .notText
  | .chars set => parts fuel (⟨some (.set set), 0⟩ :: seen)
  | .condition place => parts fuel (⟨some (.look place), 0⟩ :: seen)

def BranchesShrink (fuel : Nat) : Prop :=
  (∀ seen, Shrinks (branches fuel seen)) ∧ ∀ seen, Shrinks (parts fuel seen)

section

variable {fuel : Nat}

theorem consumes_groupEnd (h : BranchesShrink fuel) (seen : List Part) (outer : Flags)
    (number : Option Nat)
    (body : Regex) (depth : Nat) : Consumes (do
      if (← next) != ')' then Read.fail .unfinished
      modify fun reading => { reading with flags := outer }
      advance
      parts fuel (⟨some (.group number body), depth + 1⟩ :: seen)) := by
  refine shrinks_next.then fun _ => consumes_unless (Shrinks.then (shrinks_modify ?_) fun _ => ?_)
  · exact fun _ => List.suffix_refl _
  · exact consumes_advance.bind fun _ => h.2 _

theorem shrinks_groupFrom (h : BranchesShrink fuel) (seen : List Part) (outer : Flags)
    (begun : Opening) :
    Shrinks (groupFrom fuel seen outer begun) := by
  cases begun with
  | flags flags =>
    refine Shrinks.bind (shrinks_modify ?_) fun _ => h.2 _
    exact fun _ => List.suffix_refl _
  | group number flags =>
    refine Shrinks.bind (shrinks_modify ?_) fun _ => (h.1 _).bind fun body => ?_
    · exact fun _ => List.suffix_refl _
    · exact (consumes_groupEnd h seen outer number body.1 body.2).shrinks

theorem shrinks_repeatFrom (h : BranchesShrink fuel) (regex : Regex) (depth : Nat)
    (before : List Part) (least : Nat)
    (most : Option Nat) : Shrinks (repeatFrom fuel regex depth before least most) :=
  shrinks_greed.bind fun _ => h.2 _

private theorem shrinks_repeatLast (h : BranchesShrink fuel) (seen : List Part) (least : Nat)
    (most : Option Nat) :
    Shrinks (repeatLast fuel seen least most) := by
  unfold repeatLast
  split
  · exact shrinks_repeatFrom h _ _ _ _ _
  · exact shrinks_fail

theorem shrinks_escapeFrom (h : BranchesShrink fuel) (seen : List Part) (found : Primitive) :
    Shrinks (escapeFrom fuel seen found) := by
  cases found with
  | literal c => exact (shrinks_literal c).bind fun _ => h.2 _
  | byte c => exact shrinks_fail
  | chars set | condition place => exact h.2 _

private theorem shrinks_parts_succ (h : BranchesShrink fuel) (seen : List Part) :
    Shrinks (parts (fuel + 1) seen) := by
  unfold parts
  refine shrinks_skipSpace.bind fun _ => shrinks_peek.bind fun c? => ?_
  dsimp only
  split
  · exact shrinks_pure
  · exact shrinks_pure
  · exact shrinks_pure
  · exact shrinks_get.bind fun reading =>
      consumes_opening.shrinks.bind (shrinks_groupFrom h seen reading.flags)
  · exact (classesConsume fuel).1.shrinks.bind fun found => h.2 _
  -- The four ways to repeat a part.
  · exact consumes_advance.shrinks.bind fun _ => shrinks_repeatLast h seen 0 (some 1)
  · exact consumes_advance.shrinks.bind fun _ => shrinks_repeatLast h seen 0 none
  · exact consumes_advance.shrinks.bind fun _ => shrinks_repeatLast h seen 1 none
  · split
    · exact consumes_counts.shrinks.bind fun range => shrinks_repeatFrom h _ _ _ range.1 range.2
    · exact shrinks_fail
  · exact consumes_escape.shrinks.bind (shrinks_escapeFrom h seen)
  · exact consumes_advance.shrinks.bind fun _ => shrinks_anyChar.bind fun _ => h.2 _
  · exact consumes_advance.shrinks.bind fun _ => shrinks_get.bind fun _ => h.2 _
  · exact consumes_advance.shrinks.bind fun _ => shrinks_get.bind fun _ => h.2 _
  · exact consumes_advance.shrinks.bind fun _ => (shrinks_literal _).bind fun _ => h.2 _

end

theorem branchesShrink (fuel : Nat) : BranchesShrink fuel := by
  induction fuel with
  | zero => exact ⟨fun _ => shrinks_fail, fun _ => shrinks_fail⟩
  | succ fuel ih =>
    refine ⟨fun seen => ?_, shrinks_parts_succ ih⟩
    unfold branches
    exact (ih.2 _).bind fun _ => (shrinks_takeIf _).bind fun _ => shrinks_ite (ih.1 _) shrinks_pure

/-! ### Reading to the end -/

/-- A pattern is read to its end as an expression whose parts lie so deep in each other. -/
def Reads (pattern : Text) (regex : Regex) (depth : Nat) : Prop :=
  ∃ after, branches (2 * pattern.length + 4) [] ⟨pattern, {}, 0, []⟩ = .ok ((regex, depth), after) ∧
    after.rest = []

section

variable {pattern : Text} {regex : Regex} {depth : Nat}

theorem read_of_ok {after : Reading}
    (h : branches (2 * pattern.length + 4) [] ⟨pattern, {}, 0, []⟩ = .ok ((regex, depth), after)) :
    read pattern = if !after.rest.isEmpty then .error .unopenedGroup
      else if depthLimit < depth then .error .tooDeep else .ok regex := by
  unfold read
  simp only [StateT.run, h, bind, Except.bind]
  split
  · rfl
  · split <;> rfl

private theorem read_of_error {fault : Fault}
    (h : branches (2 * pattern.length + 4) [] ⟨pattern, {}, 0, []⟩ = .error fault) :
      read pattern = .error fault := by
  unfold read
  simp only [StateT.run, h, bind, Except.bind]

theorem read_eq_ok_iff : read pattern = .ok regex ↔ ∃ depth, Reads pattern regex depth ∧
    depth ≤ depthLimit := by
  constructor
  · intro h
    cases hrun : branches (2 * pattern.length + 4) [] ⟨pattern, {}, 0, []⟩ with
    | error fault =>
      rw [read_of_error hrun] at h
      cases h
    | ok result =>
      obtain ⟨⟨found, depth⟩, after⟩ := result
      rw [read_of_ok hrun] at h
      split_ifs at h with hrest hdeep
      obtain rfl := Except.ok.inj h
      exact ⟨depth, ⟨after, hrun, by simpa using hrest⟩, Nat.not_lt.1 hdeep⟩
  · rintro ⟨depth, ⟨after, hrun, hrest⟩, hdepth⟩
    rw [read_of_ok hrun, hrest]
    exact if_neg (Nat.not_lt.2 hdepth)

theorem parse_eq_ok_iff :
    parse pattern = .ok regex ↔ read pattern = .ok regex ∧ regex.size ≤ Regex.sizeLimit := by
  unfold parse
  cases hread : read pattern with
  | error fault => simp [bind, Except.bind]
  | ok found =>
    simp only [bind, Except.bind]
    constructor
    · intro h
      split at h
      · cases h
      next hsize =>
        obtain rfl := Except.ok.inj h
        exact ⟨rfl, Nat.not_lt.1 hsize⟩
    · rintro ⟨heq, hsize⟩
      obtain rfl := Except.ok.inj heq
      rw [if_neg (Nat.not_lt.2 hsize)]
      rfl

end

end GrammarBrew.Pattern
