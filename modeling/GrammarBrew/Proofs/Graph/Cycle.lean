import GrammarBrew.Graph.Cycle
import Mathlib.Data.List.Chain
import Mathlib.Data.List.Nodup

/-!
What the search for a cycle gives when it finds one: a walk along edges that comes back to where it
began, over nodes that are all different. From every node of it the walk goes on within it.
-/

set_option autoImplicit false
set_option relaxedAutoImplicit false

namespace GrammarBrew.Graph

variable {α : Type} {successors : α → List α} {node next : α} {nodes path done cycle : List α}

/-- A walk along edges from a node over others, all different, back to the node. -/
def IsCycle (successors : α → List α) (cycle : List α) : Prop :=
  ∃ node others, cycle = node :: others ++ [node] ∧ (node :: others).Nodup ∧
    cycle.IsChain fun node next => next ∈ successors node

theorem IsCycle.exists_successor (h : IsCycle successors cycle) (hnode : node ∈ cycle) :
    ∃ next ∈ cycle, next ∈ successors node := by
  obtain ⟨first, others, rfl, -, hedges⟩ := h
  have hmem : node ∈ first :: others := by
    rcases List.mem_append.1 hnode with hmem | hlast
    · exact hmem
    · rw [List.mem_singleton.1 hlast]
      exact List.mem_cons_self
  obtain ⟨front, back, hsplit⟩ := List.append_of_mem hmem
  rw [hsplit, List.append_assoc, List.cons_append] at hedges ⊢
  obtain ⟨next, rest, hrest⟩ : ∃ next rest, back ++ [first] = next :: rest :=
    List.exists_cons_of_ne_nil (by simp)
  rw [hrest] at hedges ⊢
  have hedge := List.isChain_iff_forall_rel_of_append_cons_cons.1 hedges rfl
  exact ⟨next, by simp, hedge⟩

theorem IsCycle.exists_predecessor (h : IsCycle successors cycle) (hnode : node ∈ cycle) :
    ∃ previous, node ∈ successors previous := by
  obtain ⟨first, others, rfl, -, hedges⟩ := h
  have hmem : node ∈ others ++ [first] := by
    rcases List.mem_cons.1 hnode with rfl | hmem
    · simp
    · exact hmem
  obtain ⟨front, back, hsplit⟩ := List.append_of_mem hmem
  rw [List.cons_append, hsplit] at hedges
  obtain ⟨earlier, previous, hfront⟩ : ∃ earlier previous, first :: front = earlier ++ [previous] :=
    (List.eq_nil_or_concat' (first :: front)).resolve_left (by simp)
  rw [← List.cons_append, hfront, List.append_assoc, List.singleton_append] at hedges
  exact ⟨previous, List.isChain_iff_forall_rel_of_append_cons_cons.1 hedges rfl⟩

theorem IsCycle.exists_transGen (h : IsCycle successors cycle) :
    ∃ node, Relation.TransGen (fun node next => next ∈ successors node) node node := by
  obtain ⟨node, others, rfl, -, hedges⟩ := h
  refine ⟨node, ?_⟩
  obtain ⟨next, rest, hrest⟩ : ∃ next rest, others ++ [node] = next :: rest :=
    List.exists_cons_of_ne_nil (by simp)
  rw [List.cons_append, hrest, List.isChain_cons_cons] at hedges
  have hlast : (next :: rest).getLast (List.cons_ne_nil next rest) = node := by
    simp [← hrest]
  exact Relation.TransGen.head' hedges.1
    (List.relationReflTransGen_of_exists_isChain_cons rest hedges.2 hlast)

/-! ### The search -/

def IsPath (successors : α → List α) (path : List α) : Prop :=
  path.Nodup ∧ path.IsChain fun later earlier => later ∈ successors earlier

private theorem exists_of_foldlM_eq_error {ε : Type} {step : List α → α → Except ε (List α)} {e : ε}
    (h : nodes.foldlM step done = .error e) :
      ∃ node ∈ nodes, ∃ before, step before node = .error e := by
  induction nodes generalizing done with
  | nil => simp [pure, Except.pure] at h
  | cons node nodes ih =>
    rw [List.foldlM_cons] at h
    cases hstep : step done node with
    | error other =>
      obtain rfl : other = e := by simpa [hstep, bind, Except.bind] using h
      exact ⟨node, List.mem_cons_self, done, hstep⟩
    | ok after =>
      rw [hstep] at h
      obtain ⟨later, hlater, hfails⟩ := ih h
      exact ⟨later, List.mem_cons_of_mem node hlater, hfails⟩

theorem foldlM_changed {β σ σ' ε ε' : Type} (rename : α → β) {onState : σ → σ'} {onError : ε → ε'}
    {step : σ → α → Except ε σ} {step' : σ' → β → Except ε' σ'} (start : σ)
    (hstep : ∀ node ∈ nodes, ∀ state,
      step' (onState state) (rename node) = ((step state node).map onState).mapError onError) :
    (nodes.map rename).foldlM step' (onState start)
      = ((nodes.foldlM step start).map onState).mapError onError := by
  induction nodes generalizing start with
  | nil => rfl
  | cons node nodes ih =>
    obtain ⟨hfirst, hothers⟩ := List.forall_mem_cons.1 hstep
    rw [List.map_cons, List.foldlM_cons, List.foldlM_cons, hfirst]
    cases step start node with
    | error e => rfl
    | ok after => exact ih after hothers

variable [DecidableEq α]

theorem closing_append {front back : List α} (hfresh : next ∉ front) :
    closing next (front ++ next :: back) = next :: front.reverse ++ [next] := by
  have hall : ∀ other ∈ front, (other != next) = true := by
    intro other hother
    simp only [bne_iff_ne, ne_eq]
    rintro rfl
    exact hfresh hother
  rw [closing, List.takeWhile_append_of_pos hall, List.takeWhile_cons_of_neg (by simp),
    List.append_nil]

private theorem isCycle_closing (hpath : IsPath successors (node :: path))
    (hback : next ∈ node :: path)
    (hedge : next ∈ successors node) : IsCycle successors (closing next (node :: path)) := by
  obtain ⟨nodup, edges⟩ := hpath
  obtain ⟨front, back, hsplit, hfresh⟩ := List.eq_append_cons_of_mem hback
  have hclosing : closing next (node :: path) = next :: front.reverse ++ [next] := by
    rw [hsplit, closing_append hfresh]
  refine ⟨next, front.reverse, hclosing, ?_, ?_⟩
  · rw [hsplit] at nodup
    have hfront : front.Nodup := (List.nodup_append.1 nodup).1
    exact List.nodup_cons.2 ⟨by simpa using hfresh, List.nodup_reverse.2 hfront⟩
  · have hlonger : (next :: (front ++ [next])).IsChain fun later earlier =>
        later ∈ successors earlier := by
      have hwhole : (next :: node :: path).IsChain fun later earlier =>
          later ∈ successors earlier :=
        List.isChain_cons_cons.2 ⟨hedge, edges⟩
      rw [hsplit] at hwhole
      exact hwhole.prefix ⟨back, by simp⟩
    rw [hclosing, ← List.isChain_reverse]
    simpa using hlonger

private theorem isCycle_of_visit {room : Nat} (hpath : IsPath successors (node :: path))
    (h : visit successors room path done node = .error cycle) : IsCycle successors cycle := by
  induction room generalizing path done node with
  | zero => simp [visit] at h
  | succ room ih =>
    simp only [visit] at h
    split at h
    next found hfold =>
      obtain rfl : found = cycle := by simpa using h
      obtain ⟨next, hnext, before, hstep⟩ := exists_of_foldlM_eq_error hfold
      split at hstep
      next hback =>
        obtain rfl : closing next (node :: path) = found := by simpa using hstep
        exact isCycle_closing hpath hback hnext
      next hfresh =>
        split at hstep
        · simp at hstep
        · refine ih ⟨List.nodup_cons.2 ⟨hfresh, hpath.1⟩, ?_⟩ hstep
          exact List.isChain_cons_cons.2 ⟨hnext, hpath.2⟩
    · simp at h

theorem isCycle_of_findCycle (h : findCycle nodes successors = some cycle) :
    IsCycle successors cycle := by
  unfold findCycle at h
  simp only at h
  split at h
  next found hfold =>
    obtain rfl : found = cycle := by simpa using h
    obtain ⟨node, -, before, hstep⟩ := exists_of_foldlM_eq_error hfold
    split at hstep
    · simp at hstep
    · exact isCycle_of_visit ⟨List.nodup_singleton node, List.isChain_singleton node⟩ hstep
  · simp at h

/-! ### The same graph over other nodes -/

section Renaming

variable {β : Type} {rename : α → β} {renamed : β → List β} {room : Nat}

def renameFound (rename : α → β) (found : Except (List α) (List α)) : Except (List β) (List β) :=
  (found.map (List.map rename)).mapError (List.map rename)

variable [DecidableEq β]

private theorem closing_renamed (injective : Function.Injective rename) :
    closing (rename node) (path.map rename) = (closing node path).map rename := by
  have hother : (fun other => other != rename node) ∘ rename = fun other => other != node := by
    funext other
    exact Bool.eq_iff_iff.2 (by simp [injective.ne_iff])
  simp [closing, List.takeWhile_map, hother]

private theorem visit_renamed (injective : Function.Injective rename)
    (hedges : ∀ node, renamed (rename node) = (successors node).map rename) :
    visit renamed room (path.map rename) (done.map rename) (rename node)
      = renameFound rename (visit successors room path done node) := by
  induction room generalizing path done node with
  | zero => rfl
  | succ room ih =>
    have hstep : ∀ finished next,
        (if rename next ∈ (node :: path).map rename then
            .error (closing (rename next) ((node :: path).map rename))
          else if rename next ∈ finished.map rename then .ok (finished.map rename)
          else visit renamed room ((node :: path).map rename) (finished.map rename) (rename next))
          = renameFound rename (if next ∈ node :: path then .error (closing next (node :: path))
              else if next ∈ finished then .ok finished
              else visit successors room (node :: path) finished next) := by
      intro finished next
      simp only [List.mem_map_of_injective injective]
      split
      · rw [closing_renamed injective]
        rfl
      · split
        · rfl
        · exact ih
    simp only [visit, hedges, ← List.map_cons]
    rw [foldlM_changed rename done fun next _ finished => hstep finished next]
    generalize List.foldlM (m := Except (List α)) _ done (successors node) = found
    cases found with
    | error cycle => rfl
    | ok finished => rfl

/-- The search takes the same way through a graph of the same edges over other nodes. -/
theorem findCycle_renamed (injective : Function.Injective rename)
    (hedges : ∀ node, renamed (rename node) = (successors node).map rename) :
    findCycle (nodes.map rename) renamed = (findCycle nodes successors).map (List.map rename) := by
  have hstep : ∀ finished node,
      (if rename node ∈ finished.map rename then .ok (finished.map rename)
        else visit renamed nodes.length [] (finished.map rename) (rename node))
        = renameFound rename (if node ∈ finished then .ok finished
            else visit successors nodes.length [] finished node) := by
    intro finished node
    simp only [List.mem_map_of_injective injective]
    split
    · rfl
    · have hvisit : visit renamed nodes.length ([].map rename) (finished.map rename) (rename node)
          = renameFound rename (visit successors nodes.length [] finished node) :=
        visit_renamed injective hedges
      exact hvisit
  simp only [findCycle, List.length_map]
  rw [← List.map_nil, foldlM_changed rename [] fun node _ finished => hstep finished node]
  generalize List.foldlM (m := Except (List α)) _ [] nodes = found
  cases found with
  | error cycle => rfl
  | ok finished => rfl

end Renaming

end GrammarBrew.Graph
