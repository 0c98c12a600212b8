/-!
Depth-first search for a directed cycle. Successors are tried in their given order, and the search
stops at the first edge that leads back onto the current path.
-/

set_option autoImplicit false
set_option relaxedAutoImplicit false

namespace GrammarBrew.Graph

variable {α : Type} [DecidableEq α]

/-- The cycle that an edge back to `node` closes on a path, given latest first: from `node` along
the path to `node` again. -/
def closing (node : α) (path : List α) : List α :=
  node :: (path.takeWhile fun other => other != node).reverse ++ [node]

/-- Search below a node that is not yet on the path. `path`, latest first, leads to the node, and no
cycle can be reached from the nodes of `done`. The answer is a cycle, or `done` with all that has
been searched. The number of nodes that may still join the path bounds the depth. -/
def visit (successors : α → List α) :
    Nat → List α → List α → α → Except (List α) (List α)
  | 0, _, done, _ => .ok done
  | room + 1, path, done, node =>
    let here := node :: path
    match (successors node).foldlM (fun finished next =>
        if next ∈ here then .error (closing next here)
        else if next ∈ finished then .ok finished
        else visit successors room here finished next) done with
    | .error cycle => .error cycle
    | .ok finished => .ok (node :: finished)

/-- The first cycle met by a search from each node in turn, its first node repeated as the last. -/
def findCycle (nodes : List α) (successors : α → List α) : Option (List α) :=
  let search := nodes.foldlM (fun finished node =>
    if node ∈ finished then .ok finished
    else visit successors nodes.length [] finished node) ([] : List α)
  match search with
  | .error cycle => some cycle
  | .ok _ => none

example : findCycle [0, 1, 2] (fun n => [(n + 1) % 3]) = some [0, 1, 2, 0] := by decide
example : findCycle [0, 1, 2] (fun n => if n < 2 then [n + 1] else []) = none := by decide

end GrammarBrew.Graph
