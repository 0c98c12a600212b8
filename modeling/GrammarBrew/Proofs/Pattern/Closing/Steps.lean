import GrammarBrew.Proofs.Pattern.Progress

/-!
Reading with the end of a group behind the pattern. What closes the group changes nothing before it
is reached, but for an open comment, which takes it in. Where reading fails without it, reading
fails with it too, or has gone past the closing parenthesis.
-/

set_option autoImplicit false
set_option relaxedAutoImplicit false

namespace GrammarBrew.Pattern

open Read

/-- The end of the group that is put around a pattern, and of the name. -/
def closing : Text := [')', '$']

def Reading.closed (reading : Reading) : Reading := { reading with rest := reading.rest ++ closing }

theorem Reading.length_le_closed (reading : Reading) :
    reading.rest.length ≤ reading.closed.rest.length :=
  Nat.le.intro List.length_append.symm

/-- What a step gives without the closing and with it. -/
inductive Along {α : Type} (spent : α → Reading → Prop) :
    Except Fault (α × Reading) → Except Fault (α × Reading) → Prop where
  | kept (a : α) (after : Reading) : Along spent (.ok (a, after)) (.ok (a, after.closed))
  | swallowed (a : α) (after : Reading) (atEnd : after.rest = []) :
    Along spent (.ok (a, after)) (.ok (a, after))
  /-- Reading fails without the closing, and with it, if at all, only gets to where it is spent. -/
  | refused (fault : Fault) (long : Except Fault (α × Reading))
      (only : ∀ a after, long = .ok (a, after) → spent a after) : Along spent (.error fault) long

/-- A step without the closing and a step with it go along with each other. -/
def Agree {α : Type} (spent : α → Reading → Prop) (short long : Read α) (reading : Reading) :
    Prop :=
  Along spent (short reading) (long reading.closed)

def Within {α : Type} (bound : Text) (_ : α) (after : Reading) : Prop := after.rest <:+ bound

abbrev Past {α : Type} : α → Reading → Prop := Within ['$']

section

variable {α β : Type} {spent : α → Reading → Prop} {spent' : β → Reading → Prop}
  {short long : Read α}
  {rest restClosed : α → Read β} {reading : Reading} {bound : Text}

/-! ### Steps one after the other -/

theorem Agree.bind (h : Agree spent short long reading)
    (kept : ∀ a after, short reading = .ok (a, after) → Agree spent' (rest a) (restClosed a) after)
    (swallowed : ∀ a after, short reading = .ok (a, after) → after.rest = [] →
      Along spent' (rest a after) (restClosed a after))
    (refused : ∀ a after, spent a after → ∀ b later, restClosed a after = .ok (b, later) →
      spent' b later) :
    Agree spent' (short >>= rest) (long >>= restClosed) reading := by
  change Along spent' (Except.bind (short reading) fun result => rest result.1 result.2)
    (Except.bind (long reading.closed) fun result => restClosed result.1 result.2)
  unfold Agree at h
  cases hshort : short reading with
  | ok result =>
    obtain ⟨a, after⟩ := result
    rw [hshort] at h
    generalize long reading.closed = result at h
    cases h with
    | kept => exact kept a after hshort
    | swallowed _ _ atEnd => exact swallowed a after hshort atEnd
  | error fault =>
    rw [hshort] at h
    generalize long reading.closed = result at h
    cases h with
    | refused _ _ only =>
      refine .refused fault _ fun b later hlong => ?_
      cases result with
      | error fault => cases hlong
      | ok result => exact refused _ _ (only _ _ rfl) b later hlong

theorem along_errors {fault fault' : Fault} :
    Along spent (.error fault : Except Fault (α × Reading)) (.error fault') :=
  .refused fault _ fun _ _ hlong => nomatch hlong

theorem along_of_shrinks {step : Read α} (h : Shrinks step) (atEnd : reading.rest = []) :
    Along spent (step reading) (step reading) := by
  cases hrun : step reading with
  | error fault => exact along_errors
  | ok result => exact .swallowed _ _ (List.suffix_nil.1 (atEnd ▸ h hrun))

theorem along_of_errors {step step' : Read α} {fault fault' : Fault}
    (h : step reading = .error fault)
    (h' : step' reading = .error fault') : Along spent (step reading) (step' reading) := by
  rw [h, h']
  exact along_errors

theorem Agree.then (h : Agree (Within bound) short long reading) (hrest : ∀ a, Shrinks (rest a))
    (kept : ∀ a after, short reading = .ok (a, after) →
      Agree (Within bound) (rest a) (rest a) after) :
    Agree (Within bound) (short >>= rest) (long >>= rest) reading :=
  h.bind kept (fun a _ _ atEnd => along_of_shrinks (hrest a) atEnd) fun a _ hspent _ _ hrun =>
    (hrest a hrun).trans hspent

theorem Agree.thenConsumes (h : Agree (Within closing) short long reading)
    (hrest : ∀ a, Consumes (rest a))
    (kept : ∀ a after, short reading = .ok (a, after) → Agree Past (rest a) (rest a) after) :
    Agree Past (short >>= rest) (long >>= rest) reading :=
  h.bind kept (fun a _ _ atEnd => along_of_shrinks (hrest a).shrinks atEnd)
    fun a _ hspent _ _ hrun => (hrest a hrun).trans (tail_suffix_tail hspent)

theorem Agree.mono {wider : α → Reading → Prop} (h : Agree spent short long reading)
    (himp : ∀ a after, spent a after → wider a after) : Agree wider short long reading := by
  unfold Agree at h ⊢
  generalize short reading = result at h
  generalize long reading.closed = other at h
  cases h with
  | kept => exact .kept _ _
  | swallowed _ _ atEnd => exact .swallowed _ _ atEnd
  | refused _ _ only => exact .refused _ _ fun a after hlong => himp a after (only a after hlong)

theorem Agree.within (h : Agree Past short long reading) :
    Agree (Within closing) short long reading :=
  h.mono fun _ _ hpast => hpast.trans (List.suffix_cons _ _)

theorem agree_pure {a : α} : Agree spent (pure a) (pure a) reading := .kept a reading

theorem agree_fail {fault : Fault} :
    Agree spent (Read.fail fault : Read α) (Read.fail fault) reading := along_errors

theorem agree_ite {condition : Prop} [Decidable condition] {other other' : Read α}
    (h : condition → Agree spent short long reading)
    (hother : ¬ condition → Agree spent other other' reading) :
    Agree spent (if condition then short else other) (if condition then long else other')
      reading := by
  split
  next hcondition => exact h hcondition
  next hcondition => exact hother hcondition

theorem agree_unless {condition : Prop} [Decidable condition] {fault : Fault}
    {rest restClosed : Unit → Read β}
    (h : Agree spent' (rest ()) (restClosed ()) reading) :
    Agree spent' (if condition then Read.fail fault >>= rest else rest ())
      (if condition then Read.fail fault >>= restClosed else restClosed ()) reading := by
  split
  · exact along_errors
  · exact h

theorem agree_get_bind {rest restClosed : Reading → Read β}
    (h : Agree spent' (rest reading) (restClosed reading.closed) reading) :
    Agree spent' (get >>= rest) (get >>= restClosed) reading := h

theorem along_get_bind {rest restClosed : Reading → Read β}
    (h : Along spent' (rest reading reading) (restClosed reading reading)) :
    Along spent' ((get >>= rest) reading) ((get >>= restClosed) reading) := h

theorem agree_modify_bind {change change' : Reading → Reading} {rest restClosed : Unit → Read β}
    (same : change' reading.closed = (change reading).closed)
    (h : Agree spent' (rest ()) (restClosed ()) (change reading)) :
    Agree spent' (modify change >>= rest) (modify change' >>= restClosed) reading := by
  change Along spent' (rest () (change reading)) (restClosed () (change' reading.closed))
  rw [same]
  exact h

theorem agree_next_bind {rest restClosed : Char → Read β}
    (atEnd : ∀ flags groups names b later,
      restClosed ')' ⟨closing, flags, groups, names⟩ = .ok (b, later) → spent' b later)
    (within : ∀ c text, reading.rest = c :: text →
      Agree spent' (rest c) (restClosed c)
        ⟨c :: text, reading.flags, reading.groups, reading.names⟩) :
    Agree spent' (next >>= rest) (next >>= restClosed) reading := by
  obtain ⟨text, flags, groups, names⟩ := reading
  cases text with
  | nil => exact .refused .unfinished _ (atEnd flags groups names)
  | cons c text => exact within c text rfl

theorem agree_next_bind_past {rest restClosed : Char → Read β} (hrest : Consumes (restClosed ')'))
    (within : ∀ c text, reading.rest = c :: text →
      Agree Past (rest c) (restClosed c)
        ⟨c :: text, reading.flags, reading.groups, reading.names⟩) :
    Agree Past (next >>= rest) (next >>= restClosed) reading :=
  agree_next_bind (fun _ _ _ _ _ hrun => hrest hrun) within

theorem agree_peek_bind {rest restClosed : Option Char → Read β}
    (atEnd : ∀ flags groups names, reading = ⟨[], flags, groups, names⟩ →
      Along spent' (rest none ⟨[], flags, groups, names⟩)
        (restClosed (some ')') ⟨closing, flags, groups, names⟩))
    (within : ∀ c text, reading.rest = c :: text →
      Agree spent' (rest (some c)) (restClosed (some c))
        ⟨c :: text, reading.flags, reading.groups, reading.names⟩) :
    Agree spent' (peek >>= rest) (peek >>= restClosed) reading := by
  obtain ⟨text, flags, groups, names⟩ := reading
  cases text with
  | nil => exact atEnd flags groups names rfl
  | cons c text => exact within c text rfl

theorem along_next_bind {rest restClosed : Char → Read β} (atEnd : reading.rest = []) :
    Along spent' ((next >>= rest) reading) ((next >>= restClosed) reading) := by
  obtain ⟨text, flags, groups, names⟩ := reading
  obtain rfl : text = [] := atEnd
  exact along_errors

/-! ### Steps that need not tell where the pattern ends -/

/-- A step that goes the same way with the closing behind the pattern and without. -/
structure Steady (step : Read α) : Prop where
  shrinks : Shrinks step
  agree : ∀ reading, Agree Past step step reading

theorem Agree.thenSteady {short long : Read α} (h : Agree Past short long reading)
    (hrest : ∀ a, Steady (rest a)) :
    Agree Past (short >>= rest) (long >>= rest) reading :=
  h.then (fun a => (hrest a).shrinks) fun a after _ => (hrest a).agree after

theorem Steady.bind {step : Read α} (h : Steady step) (hrest : ∀ a, Steady (rest a)) :
    Steady (step >>= rest) :=
  ⟨h.shrinks.bind fun a => (hrest a).shrinks, fun reading => (h.agree reading).thenSteady hrest⟩

theorem steady_pure {a : α} : Steady (pure a) := ⟨shrinks_pure, fun _ => agree_pure⟩

theorem steady_fail {fault : Fault} : Steady (Read.fail fault : Read α) :=
  ⟨shrinks_fail, fun _ => agree_fail⟩

theorem steady_ite {condition : Prop} [Decidable condition] {step other : Read α} (h : Steady step)
    (hother : Steady other) : Steady (if condition then step else other) := by
  split
  · exact h
  · exact hother

theorem steady_unless {condition : Prop} [Decidable condition] {fault : Fault}
    {rest : Unit → Read β}
    (h : Steady (rest ())) : Steady (if condition then Read.fail fault >>= rest else rest ()) :=
  steady_ite (steady_fail.bind fun _ => h) h

theorem steady_get_bind {rest : Reading → Read β} (h : ∀ reading, Steady (rest reading))
    (same : ∀ reading, rest reading.closed = rest reading) : Steady (get >>= rest) := by
  refine ⟨shrinks_get.bind fun reading => (h reading).shrinks, fun reading => agree_get_bind ?_⟩
  rw [same]
  exact (h reading).agree reading

theorem steady_modify {change : Reading → Reading}
    (keeps : ∀ reading, (change reading).rest = reading.rest)
    (same : ∀ reading, change reading.closed = (change reading).closed) :
      Steady (modify change) := by
  refine ⟨shrinks_modify fun reading => keeps reading ▸ List.suffix_refl _, fun reading => ?_⟩
  change Along Past (.ok ((), change reading)) (.ok ((), change reading.closed))
  rw [same]
  exact .kept () (change reading)

/-! ### Blanks and comments -/

private theorem dropSpace_append_closing (inComment : Bool) (text : Text) :
    dropSpace inComment (text ++ closing) = dropSpace inComment text ++ closing ∨
      dropSpace inComment (text ++ closing) = [] ∧ dropSpace inComment text = [] := by
  induction text generalizing inComment with
  | nil =>
    cases inComment with
    | false => exact .inl rfl
    | true => exact .inr ⟨rfl, rfl⟩
  | cons c text ih =>
    rw [List.cons_append, dropSpace, dropSpace]
    split_ifs
    · exact ih _
    · exact ih _
    · exact ih _
    · exact .inl rfl

/-- An open comment takes the closing in. -/
structure Swallows (step : Read Unit) (reading after : Reading) : Prop where
  atEnd : after.rest = []
  begins : 0 < reading.rest.length
  run : step reading.closed = .ok ((), after)

/-- Blanks and comments end before the closing, or an open comment takes it in. -/
theorem exists_skipSpace (reading : Reading) :
    ∃ after : Reading, after.rest.length ≤ reading.rest.length ∧
    skipSpace reading = .ok ((), after) ∧
    (skipSpace reading.closed = .ok ((), after.closed) ∨ Swallows skipSpace reading after) := by
  have hplain : ∀ reading : Reading, reading.flags.verbose = false →
      skipSpace reading = .ok ((), reading) :=
    fun _ h => congrArg (fun after => Except.ok ((), after)) (if_neg (Bool.eq_false_iff.1 h))
  have hverbose : ∀ reading : Reading, reading.flags.verbose = true →
      skipSpace reading = .ok ((), { reading with rest := dropSpace false reading.rest }) :=
    fun _ h => congrArg (fun after => Except.ok ((), after)) (if_pos h)
  cases h : reading.flags.verbose with
  | false => exact ⟨reading, Nat.le_refl _, hplain _ h, .inl (hplain _ h)⟩
  | true =>
    refine ⟨_, (dropSpace_suffix false reading.rest).length_le, hverbose _ h, ?_⟩
    obtain hkept | ⟨hopen, hnil⟩ := dropSpace_append_closing false reading.rest
    · rw [hverbose reading.closed h]
      exact .inl (congrArg (fun rest => Except.ok ((), { reading with rest })) hkept)
    · refine .inr ⟨hnil, List.length_pos_iff.2 fun hrest => ?_, ?_⟩
      · rw [hrest] at hopen
        cases hopen
      · rw [hverbose reading.closed h]
        exact congrArg (fun rest => Except.ok ((), { reading with rest })) (hopen.trans hnil.symm)

theorem agree_skipSpace_bind {rest restClosed : Unit → Read β}
    (kept : ∀ after : Reading, after.rest.length ≤ reading.rest.length →
      Agree spent' (rest ()) (restClosed ()) after)
    (swallowed : ∀ after : Reading, after.rest = [] → 0 < reading.rest.length →
      Along spent' (rest () after) (restClosed () after)) :
    Agree spent' (skipSpace >>= rest) (skipSpace >>= restClosed) reading := by
  unfold Agree
  obtain ⟨after, hlength, hshort, hclosed | ⟨atEnd, hbegins, hopen⟩⟩ := exists_skipSpace reading
  · rw [bind_of_ok hshort, bind_of_ok hclosed]
    exact kept after hlength
  · rw [bind_of_ok hshort, bind_of_ok hopen]
    exact swallowed after atEnd hbegins

variable {c : Char} {text : Text} {flags : Flags} {groups : Nat} {names : List Text}

theorem agree_next_cons {rest restClosed : Char → Read β}
    (h : Agree spent' (rest c) (restClosed c) ⟨c :: text, flags, groups, names⟩) :
    Agree spent' (next >>= rest) (next >>= restClosed) ⟨c :: text, flags, groups, names⟩ := h

theorem agree_advance_bind {rest restClosed : Unit → Read β}
    (h : Agree spent' (rest ()) (restClosed ()) ⟨text, flags, groups, names⟩) :
    Agree spent' (advance >>= rest) (advance >>= restClosed) ⟨c :: text, flags, groups, names⟩ := h

theorem agree_advanceSpace_bind {rest restClosed : Unit → Read β}
    (kept : ∀ after : Reading, after.rest.length ≤ text.length →
      Agree spent' (rest ()) (restClosed ()) after)
    (swallowed : ∀ after : Reading, after.rest = [] → 0 < text.length →
      Along spent' (rest () after) (restClosed () after)) :
    Agree spent' (advanceSpace >>= rest) (advanceSpace >>= restClosed)
      ⟨c :: text, flags, groups, names⟩ :=
  (agree_skipSpace_bind kept swallowed : Agree spent' (skipSpace >>= rest) _
    ⟨text, flags, groups, names⟩)

theorem agree_advanceSpace_then {rest : Unit → Read β} (hrest : Shrinks (rest ()))
    (kept : ∀ after : Reading, after.rest.length ≤ text.length →
      Agree spent' (rest ()) (rest ()) after) :
    Agree spent' (advanceSpace >>= rest) (advanceSpace >>= rest)
      ⟨c :: text, flags, groups, names⟩ :=
  agree_advanceSpace_bind kept fun _ atEnd _ => along_of_shrinks hrest atEnd

theorem skipSpace_cons (hblank : Text.isBlank c = false) (hsign : c ≠ '#') :
    skipSpace ⟨c :: text, flags, groups, names⟩ = .ok ((), ⟨c :: text, flags, groups, names⟩) := by
  have hdrop : dropSpace false (c :: text) = c :: text := by simp [dropSpace, hblank, hsign]
  change Except.ok ((), if flags.verbose then Reading.mk (dropSpace false (c :: text)) flags groups
    names else _) = _
  rw [hdrop, ite_self]

theorem skipSpace_nil :
    skipSpace ⟨[], flags, groups, names⟩ = .ok ((), ⟨[], flags, groups, names⟩) :=
  congrArg (fun after => Except.ok ((), after)) (ite_self _)

theorem isPrefixOf?_append_closing {mark : Text} (text : Text) (hmark : ')' ∉ mark) :
    mark.isPrefixOf? (text ++ closing) = (mark.isPrefixOf? text).map (· ++ closing) := by
  induction mark generalizing text with
  | nil => rfl
  | cons d mark ih =>
    obtain ⟨hne, hrest⟩ := not_or.1 (List.mem_cons.not.1 hmark)
    cases text with
    | nil =>
      have hparen : (d == ')') = false := beq_false_of_ne fun h => hne h.symm
      simp [closing, List.isPrefixOf?, hparen]
    | cons c text =>
      rw [List.cons_append, List.isPrefixOf?, List.isPrefixOf?]
      split
      · exact ih _ hrest
      · rfl

theorem agree_takeIf_bind {mark : String} {rest restClosed : Bool → Read β}
    (hmark : ')' ∉ mark.toList)
    (hne : mark.toList ≠ [])
    (taken : ∀ after : Reading, after.rest.length < reading.rest.length →
      Agree spent' (rest true) (restClosed true) after)
    (left : Agree spent' (rest false) (restClosed false) reading) :
    Agree spent' (takeIf mark >>= rest) (takeIf mark >>= restClosed) reading := by
  have hclosed := isPrefixOf?_append_closing reading.rest hmark
  unfold Agree
  cases h : mark.toList.isPrefixOf? reading.rest with
  | none =>
    rw [h] at hclosed
    have hlong : takeIf mark reading.closed = .ok (false, reading.closed) := takeIf_of_none hclosed
    rw [bind_of_ok (takeIf_of_none h), bind_of_ok hlong]
    exact left
  | some more =>
    rw [h] at hclosed
    have hlong : takeIf mark reading.closed
        = .ok (true, Reading.closed { reading with rest := more }) :=
      takeIf_of_some hclosed
    rw [bind_of_ok (takeIf_of_some h), bind_of_ok hlong]
    refine taken { reading with rest := more } ?_
    have hlength := congrArg List.length (List.append_eq_of_isPrefixOf?_eq_some h)
    have hpos := List.length_pos_iff.2 hne
    rw [List.length_append] at hlength
    change more.length < reading.rest.length
    omega

end

end GrammarBrew.Pattern
