import GrammarBrew.Proofs.Graph.Search
import Mathlib.Data.List.Perm.Subperm
import Mathlib.Logic.Function.Basic

/-!
The search for a cycle as a colouring of the nodes: every node has a mark, and an edge to an active
node is closed by looking that node up on the path. The colouring takes the same way as the search
that keeps lists. It comes to an end in every graph, and what it looks up is always found.
-/

set_option autoImplicit false
set_option relaxedAutoImplicit false

namespace GrammarBrew.Graph

inductive Mark where
  | unvisited
  | active
  | done
  deriving DecidableEq, Repr

/-- The marks of all nodes, and the path, its first node first. -/
structure Colouring (α : Type) where
  marks : α → Mark
  path : List α

/-- Why a colouring stops before all nodes are done. -/
inductive Halt (α : Type) where
  | cycle (nodes : List α)
  | lost
  | outOfRoom

namespace Colouring

variable {α : Type} [DecidableEq α]

def start : Colouring α := ⟨fun _ => .unvisited, []⟩

def enter (colouring : Colouring α) (node : α) : Colouring α :=
  ⟨Function.update colouring.marks node .active, colouring.path ++ [node]⟩

def leave (colouring : Colouring α) (node : α) : Colouring α :=
  ⟨Function.update colouring.marks node .done, colouring.path.dropLast⟩

/-- Follow an edge: an active node ends the search, and an unvisited one is explored. -/
def follow (explore : Colouring α → α → Except (Halt α) (Colouring α))
    (colouring : Colouring α) (next : α) :
    Except (Halt α) (Colouring α) :=
  match colouring.marks next with
  | .active =>
    match colouring.path.findIdx? fun node => node == next with
    | some place => .error (.cycle (colouring.path.drop place ++ [next]))
    | none => .error .lost
  | .unvisited => explore colouring next
  | .done => .ok colouring

def explore (successors : α → List α) : Nat → Colouring α → α → Except (Halt α) (Colouring α)
  | 0, _, _ => .error .outOfRoom
  | room + 1, colouring, node =>
    ((successors node).foldlM (follow (explore successors room)) (colouring.enter node)).map
      fun explored => explored.leave node

def exploreFrom (successors : α → List α) (room : Nat) (colouring : Colouring α) (node : α) :
    Except (Halt α) (Colouring α) :=
  if colouring.marks node = .unvisited then explore successors room colouring node
    else .ok colouring

/-- Explore from each node that is still unvisited, one after the other. -/
def exploreAll (successors : α → List α) (room : Nat) (nodes : List α) :
    Except (Halt α) (Colouring α) :=
  nodes.foldlM (exploreFrom successors room) start

/-! ### The same search -/

def ofSearch (path done : List α) : Colouring α :=
  ⟨fun node => if node ∈ path then .active else if node ∈ done then .done else .unvisited,
    path.reverse⟩

variable {successors : α → List α} {nodes path done : List α} {node next : α} {room room' : Nat}

private theorem enter_ofSearch :
    (ofSearch path done).enter node = ofSearch (node :: path) done := by
  have hmarks : ∀ other, Function.update (ofSearch path done).marks node .active other
      = (ofSearch (node :: path) done).marks other := by
    intro other
    by_cases heq : other = node <;> simp [ofSearch, Function.update_apply, heq]
  simp only [enter, ofSearch, List.reverse_cons, mk.injEq, and_true]
  exact funext hmarks

private theorem leave_ofSearch (hfresh : node ∉ path) :
    (ofSearch (node :: path) done).leave node = ofSearch path (node :: done) := by
  have hmarks : ∀ other, Function.update (ofSearch (node :: path) done).marks node .done other
      = (ofSearch path (node :: done)).marks other := by
    intro other
    by_cases heq : other = node
    · simp [ofSearch, heq, hfresh]
    · simp [ofSearch, heq]
  simp only [leave, ofSearch, List.reverse_cons, List.dropLast_concat, mk.injEq, and_true]
  exact funext hmarks

private theorem follow_back (explore : Colouring α → α → Except (Halt α) (Colouring α))
    (nodup : path.Nodup)
    (hback : next ∈ path) :
    follow explore (ofSearch path done) next = .error (.cycle (closing next path)) := by
  obtain ⟨front, back, hsplit, hfresh⟩ := List.eq_append_cons_of_mem hback
  have hmark : (ofSearch path done).marks next = .active := if_pos hback
  have hreverse : (ofSearch path done).path = back.reverse ++ next :: front.reverse := by
    simp [ofSearch, hsplit]
  have hbackFresh : next ∉ back.reverse := by
    rw [hsplit] at nodup
    rw [List.mem_reverse]
    exact (List.nodup_cons.1 (List.nodup_append.1 nodup).2.1).1
  have hplace : (ofSearch path done).path.findIdx? (fun node => node == next)
      = some back.reverse.length := by
    have hnone : back.reverse.findIdx? (fun node => node == next) = none := by
      refine List.findIdx?_eq_none_iff.2 fun node hnode => ?_
      simp only [beq_eq_false_iff_ne, ne_eq]
      rintro rfl
      exact hbackFresh hnode
    rw [hreverse, List.findIdx?_append, hnone]
    simp [List.findIdx?_cons]
  have hcycle : (ofSearch path done).path.drop back.reverse.length ++ [next]
      = closing next path := by
    rw [hreverse, List.drop_left, hsplit, closing_append hfresh]
  simp only [follow, hmark, hplace, hcycle]

private theorem explore_ofSearch (hclosed : ∀ node ∈ nodes, ∀ next ∈ successors node, next ∈ nodes)
    (nodup : (node :: path).Nodup) (hsub : node :: path ⊆ nodes)
    (hroom : nodes.length ≤ room + path.length) (hroom' : nodes.length ≤ room' + path.length) :
    explore successors room (ofSearch path done) node
      = ((visit successors room' path done node).map (ofSearch path)).mapError Halt.cycle := by
  have hle := (List.subperm_of_subset nodup hsub).length_le
  rw [List.length_cons] at hle
  induction room generalizing path done node room' with
  | zero => omega
  | succ room ih =>
    cases room' with
    | zero => omega
    | succ room' =>
      -- One edge: a mark tells the colouring what the path and the finished nodes tell the search.
      have hstep : ∀ next ∈ successors node, ∀ finished,
          follow (explore successors room) (ofSearch (node :: path) finished) next
            = ((if next ∈ node :: path then .error (closing next (node :: path))
                else if next ∈ finished then .ok finished
                else visit successors room' (node :: path) finished next).map
                  (ofSearch (node :: path))).mapError Halt.cycle := by
        intro next hnext finished
        by_cases hback : next ∈ node :: path
        · rw [follow_back _ nodup hback, if_pos hback]
          rfl
        · by_cases hold : next ∈ finished
          · have hmark : (ofSearch (node :: path) finished).marks next = .done :=
              (if_neg hback).trans (if_pos hold)
            rw [if_neg hback, if_pos hold]
            simp only [follow, hmark]
            rfl
          · have hmark : (ofSearch (node :: path) finished).marks next = .unvisited :=
              (if_neg hback).trans (if_neg hold)
            have hmem := hclosed node (hsub List.mem_cons_self) next hnext
            have hnodup : (next :: node :: path).Nodup := List.nodup_cons.2 ⟨hback, nodup⟩
            have hnextSub : next :: node :: path ⊆ nodes := List.cons_subset.2 ⟨hmem, hsub⟩
            have hnextLe := (List.subperm_of_subset hnodup hnextSub).length_le
            rw [List.length_cons] at hnextLe
            rw [if_neg hback, if_neg hold]
            simp only [follow, hmark]
            refine ih hnodup hnextSub ?_ ?_ hnextLe
            all_goals
              rw [List.length_cons]
              omega
      have hfold := foldlM_changed id done hstep
      rw [List.map_id] at hfold
      simp only [explore, visit, enter_ofSearch, hfold]
      generalize List.foldlM (m := Except (List α)) _ done (successors node) = found
      cases found with
      | error cycle => rfl
      | ok finished =>
        show Except.ok ((ofSearch (node :: path) finished).leave node)
            = .ok (ofSearch path (node :: finished))
        rw [leave_ofSearch (List.nodup_cons.1 nodup).1]

/-- In a graph of which every edge leads to a node of it, a colouring with room for all nodes ends:
it closes the cycle that the search finds, or leaves every node done and the path empty. -/
theorem exploreAll_cases (hclosed : ∀ node ∈ nodes, ∀ next ∈ successors node, next ∈ nodes)
    (hroom : nodes.length ≤ room) :
    (∃ cycle, findCycle nodes successors = some cycle ∧
        exploreAll successors room nodes = .error (.cycle cycle)) ∨
      (findCycle nodes successors = none ∧ ∃ colouring, exploreAll successors room nodes
        = .ok colouring ∧ colouring.path = [] ∧ ∀ node ∈ nodes, colouring.marks node = .done) := by
  -- Between two of the nodes to start from, the path is empty.
  have hstep : ∀ node ∈ nodes, ∀ finished,
      exploreFrom successors room (ofSearch [] finished) node
        = ((if node ∈ finished then .ok finished
            else visit successors nodes.length [] finished node).map (ofSearch [])).mapError
              Halt.cycle := by
    intro node hnode finished
    by_cases hold : node ∈ finished
    · have hmark : (ofSearch [] finished).marks node ≠ .unvisited := by
        simp [ofSearch, hold]
      rw [exploreFrom, if_neg hmark, if_pos hold]
      rfl
    · have hmark : (ofSearch [] finished).marks node = .unvisited := by
        simp [ofSearch, hold]
      rw [exploreFrom, if_pos hmark, if_neg hold]
      refine explore_ofSearch hclosed (List.nodup_singleton node) ?_
        (by simpa using hroom) (by simp)
      exact List.cons_subset.2 ⟨hnode, List.nil_subset nodes⟩
  have hsearch := foldlM_changed id [] hstep
  have hstart : ofSearch [] [] = (start : Colouring α) := by
    simp [ofSearch, start]
  rw [List.map_id, hstart] at hsearch
  unfold exploreAll
  rw [hsearch]
  cases hfold : nodes.foldlM (m := Except (List α)) (fun finished node =>
      if node ∈ finished then .ok finished else visit successors nodes.length [] finished node)
        [] with
  | error cycle =>
    have hfound : findCycle nodes successors = some cycle := by
      simp only [findCycle, hfold]
    exact Or.inl ⟨cycle, hfound, rfl⟩
  | ok finished =>
    have hnone : findCycle nodes successors = none := by
      simp only [findCycle, hfold]
    refine Or.inr ⟨hnone, ofSearch [] finished, rfl, rfl, fun node hnode => ?_⟩
    have hmem : node ∈ finished := (finished_of_search hclosed hfold).2 hnode
    simp [ofSearch, hmem]

end Colouring

end GrammarBrew.Graph
