import GrammarBrew.Proofs.Pattern.Closing.Escape

/-!
Classes with the end of a group behind the pattern. A class that is open there fails without the end
of the group, and goes past it otherwise.
-/

set_option autoImplicit false
set_option relaxedAutoImplicit false

namespace GrammarBrew.Pattern

open Read

section

variable {β : Type} {spent' : β → Reading → Prop} {reading : Reading} {c : Char} {text : Text}
  {flags : Flags}
  {groups : Nat} {names : List Text}

private theorem agree_classItem : Agree PastEscape classItem classItem reading := by
  unfold classItem
  refine agree_next_bind ?_ fun c text _ => ?_
  · intro flags groups names found later hrun
    obtain rfl := congrArg Prod.snd (Except.ok.inj hrun)
    exact .inl (List.suffix_refl _)
  · split
    · exact agree_escape
    · exact agree_advance_bind agree_pure

private theorem steady_rangeEnd (item : Primitive) : Steady (rangeEnd item) := by
  cases item with
  | literal c | byte c => exact steady_pure
  | chars set | condition place => exact steady_fail

private theorem steady_itemSet (item : Primitive) : Steady (itemSet item) := by
  cases item with
  | literal c => exact steady_get_bind (fun _ => steady_unless steady_pure) fun _ => rfl
  | byte c | chars set => exact steady_pure
  | condition place => exact steady_fail

private theorem head?_dropBlanks_append_closing (seenSign : Bool) (text : Text) :
    (dropBlanks seenSign (text ++ closing)).head? = (dropBlanks seenSign text).head?.or
    (some ')') := by
  induction text generalizing seenSign with
  | nil => cases seenSign <;> rfl
  | cons c text ih =>
    rw [List.cons_append, dropBlanks, dropBlanks]
    split_ifs
    · exact ih _
    · exact ih _
    · rfl

private theorem agree_peekBeyondHyphen_bind {rest : Option Char → Read β}
    (same : ∀ beyond, rest (beyond.or (some ')')) = rest beyond)
    (h : ∀ beyond, Agree spent' (rest beyond) (rest beyond) ⟨c :: text, flags, groups, names⟩) :
    Agree spent' (peekBeyondHyphen >>= rest) (peekBeyondHyphen >>= rest)
      ⟨c :: text, flags, groups, names⟩ := by
  have hclosed :
      (if flags.verbose then dropBlanks false (text ++ closing) else text ++ closing).head?
      = (if flags.verbose then dropBlanks false text else text).head?.or (some ')') := by
    split
    · exact head?_dropBlanks_append_closing false text
    · exact List.head?_append
  change Agree spent' (rest (if flags.verbose then dropBlanks false text else text).head?)
    (rest (if flags.verbose then dropBlanks false (text ++ closing) else text ++ closing).head?) _
  rw [hclosed, same]
  exact h _

private theorem steady_rangeBetween (first last : Primitive) :
    Steady (rangeBetween first last) := by
  unfold rangeBetween
  refine (steady_rangeEnd first).bind fun low => (steady_rangeEnd last).bind fun high =>
    steady_unless ?_
  exact (steady_itemSet first).bind fun _ => (steady_itemSet last).bind fun _ => steady_pure

private theorem yields_rangeBetween_condition {first : Primitive} {place : Look} :
    Yields (rangeBetween first (.condition place)) fun _ => False :=
  .after fun _ => yields_never.bind fun _ h => h.elim

private theorem yields_rangeFrom_condition {place : Look} :
    Yields (rangeFrom (.condition place)) fun _ => False := by
  unfold rangeFrom
  refine .after fun _ => .after fun _ => .after fun _ => yields_ite yields_never ?_
  exact .after fun _ => .after fun _ => .after fun _ => yields_never.bind fun _ h => h.elim

private theorem agree_rangeFrom (first : Primitive) :
    Agree (Within closing) (rangeFrom first) (rangeFrom first) reading := by
  unfold rangeFrom
  refine agree_skipSpace_bind (fun after _ => agree_next_bind ?_ fun c text _ => ?_) ?_
  · exact fun _ _ _ _ _ hrun => shrinks_itemSet first hrun
  · refine agree_peekBeyondHyphen_bind (fun beyond => by cases beyond <;> rfl) fun beyond => ?_
    refine agree_ite (fun _ => ((steady_itemSet first).agree _).within) fun _ => Agree.within ?_
    refine agree_advanceSpace_bind (fun after _ => agree_next_bind_past ?_ fun c text _ => ?_) ?_
    · exact consumes_classItem.bind fun last => shrinks_rangeBetween first last
    · refine agree_classItem.bind
        (fun last after _ => (steady_rangeBetween first last).agree after) ?_ ?_
      · exact fun last after _ atEnd => along_of_shrinks (shrinks_rangeBetween first last) atEnd
      · rintro last after (hpast | ⟨⟨place, rfl⟩, -⟩) set later hrun
        · exact (shrinks_rangeBetween first last hrun).trans hpast
        · exact (yields_rangeBetween_condition hrun).elim
    · exact fun after atEnd _ => along_next_bind atEnd
  · exact fun after atEnd _ => along_next_bind atEnd

private theorem agree_classRange : Agree (Within closing) classRange classRange reading := by
  rw [classRange_eq]
  refine agree_classItem.bind (fun first _ _ => agree_rangeFrom first) ?_ ?_
  · exact fun first after _ atEnd => along_of_shrinks (shrinks_rangeFrom first) atEnd
  · rintro first after (hpast | ⟨⟨place, rfl⟩, -⟩) set later hrun
    · exact (shrinks_rangeFrom first hrun).trans (hpast.trans (List.suffix_cons _ _))
    · exact (yields_rangeFrom_condition hrun).elim

private theorem agree_leadingHyphens {fuel fuel' : Nat} (items : Items)
    (hfuel : reading.rest.length ≤ fuel)
    (hle : fuel ≤ fuel') :
    Agree (Within closing) (leadingHyphens fuel items) (leadingHyphens fuel' items) reading := by
  induction fuel generalizing fuel' items reading with
  | zero =>
    obtain ⟨text, flags, groups, names⟩ := reading
    obtain rfl : text = [] := List.length_eq_zero_iff.1 (Nat.le_zero.1 hfuel)
    cases fuel' with
    | zero => exact .kept items _
    | succ fuel' => exact .kept items ⟨[], flags, groups, names⟩
  | succ fuel ih =>
    obtain ⟨fuel', rfl⟩ : ∃ less, fuel' = less + 1 := ⟨fuel' - 1, by omega⟩
    unfold leadingHyphens
    refine agree_next_bind ?_ fun c text htext => ?_
    · intro flags groups names found later hrun
      obtain rfl := congrArg Prod.snd (Except.ok.inj hrun)
      exact List.suffix_refl _
    · rw [htext, List.length_cons] at hfuel
      split
      · refine agree_advanceSpace_bind (fun after hlength => ih _ (by omega) (by omega)) ?_
        rintro ⟨_, flags, groups, names⟩ rfl hbegins
        obtain ⟨fuel, rfl⟩ : ∃ less, fuel = less + 1 := ⟨fuel - 1, by omega⟩
        obtain ⟨fuel', rfl⟩ : ∃ less, fuel' = less + 1 := ⟨fuel' - 1, by omega⟩
        exact along_next_bind rfl
      · exact agree_pure

def ClassesAgree (fuel : Nat) : Prop :=
  (∀ (fuel' : Nat) (c : Char) (text : Text) (flags : Flags) (groups : Nat) (names : List Text),
    fuel ≤ fuel' →
    2 * text.length + 2 ≤ fuel →
      Agree Past (bracketed fuel) (bracketed fuel') ⟨c :: text, flags, groups, names⟩) ∧
  ∀ (fuel' : Nat) (pending : Option (ClassOp × Class)) (items : Items) (reading : Reading),
    fuel ≤ fuel' → 2 * reading.rest.length + 1 ≤ fuel →
      Agree Past (classBody fuel pending items) (classBody fuel' pending items) reading

private theorem cut_append_closing (text : Text) : Text.cut [':'] (text ++ closing)
    = (Text.cut [':'] text).map fun parts => (parts.1, parts.2 ++ closing) := by
  cases h : Text.cut [':'] text with
  | some parts =>
    obtain ⟨front, rest⟩ := parts
    obtain ⟨hfront, rfl⟩ := Text.cut_singleton_eq_some_iff.1 h
    exact Text.cut_singleton_eq_some_iff.2 ⟨hfront, by simp⟩
  | none =>
    have hnone := Text.cut_eq_none_iff.1 h
    refine Text.cut_eq_none_iff.2 fun hinfix => hnone ?_
    rw [List.singleton_infix_iff] at hinfix ⊢
    exact (List.mem_append.1 hinfix).resolve_right (by decide)

private theorem namedClass?_eq_none {text : Text} (h : ¬ ∃ inner, text = '[' :: ':' :: inner) :
    namedClass? text = none := by
  unfold namedClass?
  split
  · exact absurd ⟨_, rfl⟩ h
  · rfl

private theorem namedClass?_append_closing (text : Text) : namedClass? (text ++ closing)
    = (namedClass? text).map fun found => (found.1, found.2.1, found.2.2 ++ closing) := by
  by_cases hopens : ∃ inner, text = '[' :: ':' :: inner
  · obtain ⟨inner, rfl⟩ := hopens
    have hhead : ((inner ++ closing).head? == some '^') = (inner.head? == some '^') := by
      cases inner <;> rfl
    have hnamed : (if inner.head? == some '^' then (inner ++ closing).tail else inner ++ closing)
        = (if inner.head? == some '^' then inner.tail else inner) ++ closing := by
      cases inner with
      | nil => rfl
      | cons c inner => split <;> rfl
    rw [List.cons_append, List.cons_append, namedClass?, namedClass?, hhead, hnamed,
      cut_append_closing]
    cases Text.cut [':'] (if inner.head? == some '^' then inner.tail else inner) with
    | none => rfl
    | some parts =>
      obtain ⟨name, after⟩ := parts
      cases after with
      | nil => rfl
      | cons c after =>
        by_cases hc : c = ']'
        · subst hc
          simp only [Option.map_some, List.cons_append, Option.map_map]
          rfl
        · simp [hc]
  · rw [namedClass?_eq_none hopens, namedClass?_eq_none]
    · rfl
    · rintro ⟨inner, heq⟩
      match text with
      | [] => cases heq
      | [c] => cases heq
      | c :: d :: text =>
        obtain ⟨rfl, hrest⟩ := List.cons.inj heq
        obtain ⟨rfl, -⟩ := List.cons.inj hrest
        exact hopens ⟨text, rfl⟩

section

variable {fuel fuel' : Nat} {pending : Option (ClassOp × Class)} {items : Items} {negated : Bool}

/-! A class is not closed at the end of the pattern. -/

private theorem classBody_atEnd (hfuel : 0 < fuel) (atEnd : reading.rest = []) :
    classBody fuel pending items reading = .error .unfinished := by
  obtain ⟨_, flags, groups, names⟩ := reading
  obtain rfl : _ = [] := atEnd
  obtain ⟨fuel, rfl⟩ := Nat.exists_eq_add_of_lt hfuel
  rw [classBody, bind_of_ok skipSpace_nil]
  rfl

private theorem classFrom_atEnd (hfuel : 0 < fuel) (atEnd : reading.rest = []) :
    classFrom fuel negated items reading = .error .unfinished :=
      bind_of_error (classBody_atEnd hfuel atEnd)

private theorem classStart_atEnd (atEnd : reading.rest = []) :
    classStart fuel negated reading = .error .unfinished := by
  obtain ⟨_, flags, groups, names⟩ := reading
  obtain rfl : _ = [] := atEnd
  rfl

private theorem ClassesAgree.thenBody {α : Type} {step step' : Read α} {more : α → Items}
    (h : ClassesAgree fuel)
    (hfuel : 0 < fuel) (hle : fuel ≤ fuel') (hstep : Agree (Within closing) step step' reading)
    (hlength : ∀ a after, step reading = .ok (a, after) → 2 * after.rest.length + 1 ≤ fuel) :
    Agree Past (step >>= fun a => classBody fuel pending (more a))
      (step' >>= fun a => classBody fuel' pending (more a)) reading := by
  refine hstep.bind (fun a after hrun => h.2 _ _ _ _ hle (hlength a after hrun)) ?_ ?_
  · exact fun a after _ atEnd =>
      along_of_errors (classBody_atEnd hfuel atEnd) (classBody_atEnd (by omega) atEnd)
  · exact fun a after hwithin found later hrun =>
      ((classesConsume fuel').2 _ _ hrun).trans (tail_suffix_tail hwithin)

private theorem agree_classInner (h : ClassesAgree fuel) (hle : fuel ≤ fuel')
    (hfuel : 2 * text.length + 2 ≤ fuel) :
    Agree Past (classInner fuel pending items) (classInner fuel' pending items)
      ⟨c :: text, flags, groups, names⟩ := by
  have hpos : 0 < fuel := by omega
  refine agree_get_bind ?_
  have hnamed := namedClass?_append_closing (c :: text)
  have hshort : namedClass? (Reading.mk (c :: text) flags groups names).rest
      = namedClass? (c :: text) := rfl
  have hlong : namedClass? (Reading.mk (c :: text) flags groups names).closed.rest
      = namedClass? (c :: text ++ closing) := rfl
  rw [hshort, hlong, hnamed]
  cases hclass : namedClass? (c :: text) with
  | some found =>
    obtain ⟨negated, set, rest⟩ := found
    have hrest : rest.length ≤ text.length := (suffix_of_namedClass? hclass).length_le
    refine agree_modify_bind rfl
      (h.thenBody hpos hle ((steady_finishSet negated set).agree _).within ?_)
    intro named later hrun
    have hlater : later.rest.length ≤ rest.length := (shrinks_finishSet negated set hrun).length_le
    omega
  | none =>
    refine h.thenBody hpos hle (h.1 _ _ _ _ _ _ hle hfuel).within fun inner later hrun => ?_
    have hlater : later.rest.length ≤ text.length := ((classesConsume fuel).1 hrun).length_le
    omega

private theorem agree_classBody_succ (h : ClassesAgree fuel) (hle : fuel ≤ fuel')
    (hfuel : 2 * reading.rest.length ≤ fuel) :
    Agree Past (classBody (fuel + 1) pending items) (classBody (fuel' + 1) pending items)
      reading := by
  have hconsumes := (classesConsume (fuel' + 1)).2 pending items
  unfold classBody
  refine agree_skipSpace_bind (fun after hlength => agree_next_bind ?_ fun c text htext =>
    agree_get_bind ?_) ?_
  · intro flags groups names found later hrun
    have hskip : skipSpace ⟨closing, flags, groups, names⟩
        = .ok ((), ⟨closing, flags, groups, names⟩) :=
      skipSpace_cons (by decide) (by decide)
    have hbody : classBody (fuel' + 1) pending items ⟨closing, flags, groups, names⟩
        = .ok (found, later) := by
      rw [classBody, bind_of_ok hskip]
      exact hrun
    exact hconsumes hbody
  · rw [htext, List.length_cons] at hlength
    have hsign : ∀ {pending items} (later : Reading), later.rest.length < (c :: text).length →
        Agree Past (classBody fuel pending items) (classBody fuel' pending items) later := by
      intro pending items later hlater
      rw [List.length_cons] at hlater
      exact h.2 _ _ _ _ hle (by omega)
    dsimp only
    refine agree_ite (fun _ => agree_classInner h hle (by omega)) fun _ => ?_
    refine agree_ite (fun _ => agree_advance_bind agree_pure) fun _ => ?_
    refine agree_takeIf_bind (by decide) (by decide) hsign ?_
    refine agree_takeIf_bind (by decide) (by decide) hsign ?_
    refine agree_takeIf_bind (by decide) (by decide) hsign ?_
    refine h.thenBody (by omega) hle agree_classRange fun item later hrun => ?_
    have hlater : later.rest.length ≤ text.length := (consumes_classRange hrun).length_le
    omega
  · exact fun after atEnd _ => along_next_bind atEnd

private theorem agree_classFrom (h : ClassesAgree fuel) (hle : fuel ≤ fuel')
    (hfuel : 2 * reading.rest.length + 1 ≤ fuel) :
    Agree Past (classFrom fuel negated items) (classFrom fuel' negated items) reading :=
  (h.2 _ _ _ _ hle hfuel).thenSteady fun body => (steady_finishSet negated body.set).bind
    fun _ => steady_pure

private theorem agree_classStart (h : ClassesAgree fuel) (hle : fuel ≤ fuel')
    (hfuel : 2 * reading.rest.length + 1 ≤ fuel) :
    Agree Past (classStart fuel negated) (classStart fuel' negated) reading := by
  have hconsumes : ∀ (hyphens : Items) (c : Char),
      Consumes (if hyphens.count = 0 && c == ']' then do
      advanceSpace
      classFrom fuel' negated (hyphens.add ⟨.single ']', 0⟩)
    else classFrom fuel' negated hyphens) := by
    intro hyphens c
    have hfrom := consumes_classFrom (classesConsume fuel') negated
    exact consumes_ite (consumes_advanceSpace.bind fun _ => (hfrom _).shrinks) (hfrom _)
  unfold classStart
  refine agree_get_bind ((agree_leadingHyphens _ (Nat.le_refl _) reading.length_le_closed).bind
    (fun hyphens later hrun =>
      agree_next_bind_past (hconsumes hyphens ')') fun c inner hinner => ?_) ?_ ?_)
  · have hlength := (shrinks_leadingHyphens _ _ hrun).length_le
    rw [hinner, List.length_cons] at hlength
    refine agree_ite (fun _ => agree_advanceSpace_bind (fun last hlast => ?_)
      fun last atEnd _ => ?_) fun _ => ?_
    · exact agree_classFrom h hle (by omega)
    · exact along_of_errors (classFrom_atEnd (by omega) atEnd) (classFrom_atEnd (by omega) atEnd)
    · refine agree_classFrom h hle ?_
      rw [List.length_cons]
      omega
  · exact fun hyphens later _ atEnd => along_next_bind atEnd
  · exact fun hyphens later hwithin found last hrun =>
      (shrinks_next.then (hconsumes hyphens) hrun).trans (tail_suffix_tail hwithin)

private theorem agree_bracketed_succ (h : ClassesAgree fuel) (hle : fuel ≤ fuel')
    (hfuel : 2 * text.length + 1 ≤ fuel) :
    Agree Past (bracketed (fuel + 1)) (bracketed (fuel' + 1))
      ⟨c :: text, flags, groups, names⟩ := by
  have hconsumes := consumes_classStart (classesConsume fuel')
  rw [bracketed_succ, bracketed_succ]
  refine agree_advanceSpace_bind
    (fun after hlength => agree_next_bind_past ?_ fun c inner hinner => ?_) ?_
  · exact consumes_ite (consumes_advanceSpace.bind fun _ => (hconsumes _).shrinks) (hconsumes _)
  · rw [hinner, List.length_cons] at hlength
    refine agree_ite (fun _ => agree_advanceSpace_bind (fun later hlater => ?_)
      fun later atEnd _ => ?_) fun _ => ?_
    · exact agree_classStart h hle (by omega)
    · exact along_of_errors (classStart_atEnd atEnd) (classStart_atEnd atEnd)
    · refine agree_classStart h hle ?_
      rw [List.length_cons]
      omega
  · exact fun after atEnd _ => along_next_bind atEnd

theorem classesAgree (fuel : Nat) : ClassesAgree fuel := by
  induction fuel with
  | zero => exact ⟨fun _ _ _ _ _ _ _ h => by omega, fun _ _ _ _ _ h => by omega⟩
  | succ fuel ih =>
    refine ⟨fun fuel' c text flags groups names hle hfuel => ?_,
      fun fuel' pending items reading hle hfuel => ?_⟩
    · obtain ⟨fuel', rfl⟩ : ∃ less, fuel' = less + 1 := ⟨fuel' - 1, by omega⟩
      exact agree_bracketed_succ ih (by omega) (by omega)
    · obtain ⟨fuel', rfl⟩ : ∃ less, fuel' = less + 1 := ⟨fuel' - 1, by omega⟩
      exact agree_classBody_succ ih (by omega) (by omega)

end

end

end GrammarBrew.Pattern
