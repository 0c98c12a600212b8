import GrammarBrew.Proofs.Graph.Cycle
import Mathlib.Data.List.Basic
import Mathlib.Data.List.Perm.Subperm

/-!
What the search for a cycle leaves behind when it finds none: the nodes in an order in which every
edge leads to a node finished earlier. The place of a node in that order is a rank that falls along
every edge, so that there is no cycle to find.
-/

set_option autoImplicit false
set_option relaxedAutoImplicit false

namespace GrammarBrew.Graph

variable {α : Type} {successors : α → List α}

/-- Nodes, the latest finished first, each with all its successors after it. -/
def Finished (successors : α → List α) : List α → Prop
  | [] => True
  | node :: earlier => (∀ next ∈ successors node, next ∈ earlier) ∧ Finished successors earlier

private theorem Finished.mem_of_successor {order : List α} (h : Finished successors order)
    {node next : α}
    (hnode : node ∈ order) (hnext : next ∈ successors node) : next ∈ order := by
  induction order with
  | nil => simp at hnode
  | cons latest earlier ih =>
    rcases List.mem_cons.1 hnode with rfl | hearlier
    · exact List.mem_cons_of_mem _ (h.1 next hnext)
    · exact List.mem_cons_of_mem _ (ih h.2 hearlier)

private theorem foldlM_takes_up {ε : Type} {step : List α → α → Except ε (List α)}
    {P : List α → Prop} {nexts done out : List α}
    (hstep : ∀ next ∈ nexts, ∀ before after, P before → step before next = .ok after →
      P after ∧ before ⊆ after ∧ next ∈ after)
    (hdone : P done) (hout : nexts.foldlM step done = .ok out) :
    P out ∧ done ⊆ out ∧ nexts ⊆ out := by
  induction nexts generalizing done with
  | nil =>
    obtain rfl : done = out := by simpa [pure, Except.pure] using hout
    exact ⟨hdone, List.Subset.refl _, List.nil_subset _⟩
  | cons next nexts ih =>
    rw [List.foldlM_cons] at hout
    cases hnext : step done next with
    | error e => simp [hnext, bind, Except.bind] at hout
    | ok after =>
      simp only [hnext, bind, Except.bind] at hout
      obtain ⟨hafter, hkeeps, hmem⟩ := hstep next List.mem_cons_self _ _ hdone hnext
      obtain ⟨hP, hsub, hnexts⟩ :=
        ih (fun n hn => hstep n (List.mem_cons_of_mem _ hn)) hafter hout
      exact ⟨hP, List.Subset.trans hkeeps hsub, List.cons_subset.2 ⟨hsub hmem, hnexts⟩⟩

variable [DecidableEq α]

private theorem visit_finishes {nodes : List α}
    (hclosed : ∀ node ∈ nodes, ∀ next ∈ successors node, next ∈ nodes)
    (room : Nat) {path done out : List α} {node : α}
    (hnodup : (node :: path).Nodup) (hpath : node :: path ⊆ nodes)
    (hroom : nodes.length ≤ room + path.length) (hdone : Finished successors done)
    (hout : visit successors room path done node = .ok out) :
    Finished successors out ∧ done ⊆ out ∧ node ∈ out := by
  induction room generalizing path done out node with
  | zero =>
    -- The path has no repetition, so the room does not run out before the nodes do.
    have hle := (List.subperm_of_subset hnodup hpath).length_le
    simp only [List.length_cons] at hle
    omega
  | succ room ih =>
    simp only [visit] at hout
    split at hout
    · simp at hout
    next finished hfold =>
      obtain rfl : node :: finished = out := by simpa using hout
      have hbelow := foldlM_takes_up (P := Finished successors)
        (fun next hnext before after hbefore hstep => ?_) hdone hfold
      · exact ⟨⟨fun next hnext => hbelow.2.2 hnext, hbelow.1⟩,
          fun n hn => List.mem_cons_of_mem _ (hbelow.2.1 hn), List.mem_cons_self⟩
      · split at hstep
        · simp at hstep
        next hfresh =>
          split at hstep
          next hold =>
            obtain rfl : before = after := by simpa using hstep
            exact ⟨hbefore, List.Subset.refl _, hold⟩
          · have hmem := hclosed node (hpath List.mem_cons_self) next hnext
            exact ih (List.nodup_cons.2 ⟨hfresh, hnodup⟩) (List.cons_subset.2 ⟨hmem, hpath⟩)
              (by simp only [List.length_cons]; omega) hbefore hstep

theorem finished_of_search {nodes order : List α}
    (hclosed : ∀ node ∈ nodes, ∀ next ∈ successors node, next ∈ nodes)
    (h : nodes.foldlM (m := Except (List α)) (fun finished node =>
      if node ∈ finished then .ok finished else visit successors nodes.length [] finished node) []
      = .ok order) : Finished successors order ∧ nodes ⊆ order := by
  have hempty : Finished successors [] := trivial
  have hall := foldlM_takes_up (P := Finished successors)
    (fun node hnode before after hbefore hstep => ?_) hempty h
  · exact ⟨hall.1, hall.2.2⟩
  · split at hstep
    next hold =>
      obtain rfl : before = after := by simpa using hstep
      exact ⟨hbefore, List.Subset.refl _, hold⟩
    · exact visit_finishes hclosed nodes.length (by simp)
        (List.cons_subset.2 ⟨hnode, List.nil_subset _⟩) (by simp) hbefore hstep

private theorem exists_finished_of_findCycle_eq_none {nodes : List α}
    (hclosed : ∀ node ∈ nodes, ∀ next ∈ successors node, next ∈ nodes)
    (h : findCycle nodes successors = none) :
    ∃ order, Finished successors order ∧ nodes ⊆ order := by
  unfold findCycle at h
  simp only at h
  split at h
  · simp at h
  next order hfold => exact ⟨order, finished_of_search hclosed hfold⟩

private theorem Finished.idxOf_lt {order : List α} (h : Finished successors order) {node next : α}
    (hnode : node ∈ order) (hnext : next ∈ successors node) :
    order.reverse.idxOf next < order.reverse.idxOf node := by
  induction order with
  | nil => simp at hnode
  | cons latest earlier ih =>
    rw [List.reverse_cons]
    by_cases hearlier : node ∈ earlier
    · have hmem := h.2.mem_of_successor hearlier hnext
      rw [List.idxOf_append_of_mem (List.mem_reverse.2 hmem),
        List.idxOf_append_of_mem (List.mem_reverse.2 hearlier)]
      exact ih h.2 hearlier
    · obtain rfl : node = latest := (List.mem_cons.1 hnode).resolve_right hearlier
      have hmem := h.1 next hnext
      rw [List.idxOf_append_of_mem (List.mem_reverse.2 hmem),
        List.idxOf_append_of_notMem (by simpa using hearlier)]
      exact Nat.lt_add_right _ (List.idxOf_lt_length_of_mem (List.mem_reverse.2 hmem))

theorem exists_rank_of_findCycle_eq_none {nodes : List α}
    (hclosed : ∀ node ∈ nodes, ∀ next ∈ successors node, next ∈ nodes)
    (h : findCycle nodes successors = none) :
    ∃ rank : α → Nat, ∀ node ∈ nodes, ∀ next ∈ successors node, rank next < rank node := by
  obtain ⟨order, hfinished, hsub⟩ := exists_finished_of_findCycle_eq_none hclosed h
  exact ⟨order.reverse.idxOf, fun node hnode next hnext => hfinished.idxOf_lt (hsub hnode) hnext⟩

omit [DecidableEq α] in
private theorem rank_lt_of_way {nodes : List α} {rank : α → Nat} {node last : α}
    (hedges : ∀ node, ∀ next ∈ successors node, next ∈ nodes)
    (hrank : ∀ node ∈ nodes, ∀ next ∈ successors node, rank next < rank node)
    (hmem : node ∈ nodes)
    (way : Relation.TransGen (fun node next => next ∈ successors node) node last) :
    last ∈ nodes ∧ rank last < rank node := by
  induction way with
  | single hedge => exact ⟨hedges node _ hedge, hrank node hmem _ hedge⟩
  | tail _ hedge ih =>
    obtain ⟨hlast, hlt⟩ := ih
    exact ⟨hedges _ _ hedge, (hrank _ hlast _ hedge).trans hlt⟩

/-- Where every edge leads to one of the nodes a cycle is found exactly if some node can be reached
from itself. -/
theorem exists_findCycle_iff {nodes : List α}
    (hedges : ∀ node, ∀ next ∈ successors node, next ∈ nodes) :
    (∃ cycle, findCycle nodes successors = some cycle) ↔
      ∃ node, Relation.TransGen (fun node next => next ∈ successors node) node node := by
  constructor
  · rintro ⟨cycle, hcycle⟩
    exact (isCycle_of_findCycle hcycle).exists_transGen
  · rintro ⟨node, hround⟩
    by_contra hnone
    have hsearch : findCycle nodes successors = none := by
      rw [← Option.not_isSome_iff_eq_none, Option.isSome_iff_exists]
      exact hnone
    obtain ⟨rank, hrank⟩ := exists_rank_of_findCycle_eq_none (fun node _ => hedges node) hsearch
    have hmem : node ∈ nodes := by
      obtain ⟨previous, -, hedge⟩ := Relation.TransGen.tail'_iff.1 hround
      exact hedges previous node hedge
    exact Nat.lt_irrefl _ (rank_lt_of_way hedges hrank hmem hround).2

end GrammarBrew.Graph
