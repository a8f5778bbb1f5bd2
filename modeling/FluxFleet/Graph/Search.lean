import FluxFleet.Graph.Basic

/-!
# Depth-first search of the dependency graph

The search finds cycles and an order in which dependencies come first. Every node that has not
been reached yet is a new root. A node is white until it is reached, grey while it is on the path
from the root, and black when all its dependencies are done. A dependency on a grey node closes a
cycle; the search goes on, so that independent cycles are all reported.

The search is a machine of single steps (`Search.step`). A step reads one dependency or finishes
one node, so a run from a root ends within the number of nodes and dependencies (`stepBound`).
-/

namespace FluxFleet

/-- How far the search has come with a node. -/
inductive Colour where
  | white
  | grey
  | black
deriving DecidableEq, Repr, Inhabited

/-- The state of the search. -/
structure Search where
  /-- the nodes from the current one back to the root -/
  path : List String := []
  /-- for each node of the path the dependencies that have not been read -/
  unread : List (List String) := []
  /-- the nodes that have been reached -/
  colours : OrderedMap String Colour := .empty
  /-- the finished nodes, dependencies first -/
  order : List String := []
  cycles : List Cycle := []
deriving Repr, Inhabited

namespace Search

/-- The colour of a node. -/
def colour (s : Search) (id : String) : Colour := (s.colours.get? id).getD .white

/-- Give a node a colour. -/
def paint (s : Search) (id : String) (c : Colour) : Search :=
  { s with colours := s.colours.insert id c }

/-- Put a node on the path. -/
def enter (g : Graph) (s : Search) (id : String) : Search :=
  { s.paint id .grey with path := id :: s.path, unread := g.dependencies id :: s.unread }

/-- The cycle that a dependency on the node `id` of the path closes. -/
def closing (path : List String) (id : String) : Cycle :=
  ⟨id :: (path.takeWhile (· != id)).reverse ++ [id]⟩

/-- Read the next dependency of the current node, or finish the node when there is none. -/
def step (g : Graph) (s : Search) : Search :=
  match s.path, s.unread with
  | id :: path, [] :: unread =>
    { s.paint id .black with path, unread, order := s.order ++ [id] }
  | _ :: _, (d :: ds) :: unread =>
    let s' := { s with unread := ds :: unread }
    if g.contains d then
      match s.colour d with
      | .grey => { s' with cycles := s.cycles ++ [closing s.path d] }
      | .white => enter g s' d
      | .black => s'
    else s'
  | _, _ => s

/-- Take steps until the path is empty, at most `fuel` of them. -/
def run (g : Graph) : Nat → Search → Search
  | 0, s => s
  | fuel + 1, s => if s.path.isEmpty then s else run g fuel (step g s)

/-- The number of nodes and dependencies of a graph. -/
def stepBound (g : Graph) : Nat :=
  g.entries.length + (g.entries.flatMap fun e => e.2.dependencies).length

/-- Search from a root, unless it has been reached. -/
def visit (g : Graph) (s : Search) (root : String) : Search :=
  match s.colour root with
  | .white => run g (stepBound g) (enter g s root)
  | _ => s

/-- Search from every node in turn. -/
def complete (g : Graph) : Search := g.keys.foldl (visit g) {}

end Search

namespace Graph

/-- The cycles that the search finds. -/
def cycles (g : Graph) : List Cycle := (Search.complete g).cycles

/-- The nodes in an order in which dependencies come first, unless there is a cycle. -/
def order? (g : Graph) : Option (List String) :=
  let s := Search.complete g
  if s.cycles.isEmpty then some s.order else none

/-- The order of deployment of a set of templates, or everything that stands in its way: first the
problems of single references, then cycles. -/
def validate (templates : List Template) : Except Error (List String) := do
  checkNames templates
  let (g, problems) := build templates
  if !problems.isEmpty then throw (.graph problems)
  match g.order? with
  | some order => return order
  | none => throw (.cycles g.cycles)

end Graph

end FluxFleet
