import ShapeKit.Graph.Neighbor

/-!
# Shape graphs

A directed graph between shape IDs built from the relationships of a model's
non-member shapes. A relationship to a member becomes an edge to the member's
target, labelled with the member's ID; any other relationship becomes an edge
to the neighbor, labelled with the shape's own ID. A filter chooses which
relationships count.

Cycles are the strongly connected components that hold a cycle: two or more
shapes, or one shape with an edge to itself. Each is listed in ID order, and
the cycles in order of their lists.
-/

namespace ShapeKit

/-- Nodes in order of first use, and edges `(from, to, label)` in the order
they were added. -/
structure ShapeGraph where
  nodes : List ShapeId := []
  edges : List (ShapeId × ShapeId × ShapeId) := []

namespace ShapeGraph

/-- Adds an edge and its end nodes. -/
def addEdge (g : ShapeGraph) (src dst label : ShapeId) : ShapeGraph :=
  let withSrc := if g.nodes.contains src then g.nodes else g.nodes ++ [src]
  let withDst := if withSrc.contains dst then withSrc else withSrc ++ [dst]
  { nodes := withDst, edges := g.edges ++ [(src, dst, label)] }

/-- The graph of a model's non-member shapes and the relationships `keep`
chooses; `keep` sees the shape whose relationship it is. -/
def ofModel (m : Model) (keep : Shape → Relationship → Bool) : ShapeGraph :=
  (m.shapes.filter (fun s => !s.isMember)).foldl (fun g s =>
    (neighbors m false s).foldl (fun g r =>
      if r.shape != s.id || !keep s r then g
      else match r.memberTarget with
        | some t => g.addEdge s.id t r.neighbor
        | none => g.addEdge s.id r.neighbor s.id) g) {}

/-- The nodes an edge leads to from a node. -/
def successors (g : ShapeGraph) (id : ShapeId) : List ShapeId :=
  g.edges.filterMap fun (a, b, _) => if a == id then some b else none

/-- Widens a set of reached nodes by walking from the frontier, at most
`fuel` rounds. -/
def reachFrom (g : ShapeGraph) : Nat → List ShapeId → List ShapeId → List ShapeId
  | 0, seen, _ => seen
  | fuel + 1, seen, frontier =>
    let next := (frontier.flatMap g.successors).eraseDups.filter fun x => !seen.contains x
    if next.isEmpty then seen else reachFrom g fuel (seen ++ next) next

/-- The nodes reachable from a node by one edge or more. -/
def reachable (g : ShapeGraph) (id : ShapeId) : List ShapeId :=
  let first := (g.successors id).eraseDups
  reachFrom g g.nodes.length first first

/-- The cycles of the graph. -/
def cycles (g : ShapeGraph) : List (List ShapeId) :=
  let reach := g.nodes.map fun v => (v, g.reachable v)
  let reaches (a b : ShapeId) : Bool := ((reach.lookup a).map (·.contains b)).getD false
  let comps := g.nodes.filterMap fun v =>
    if reaches v v then
      some (ShapeId.sort (v :: g.nodes.filter fun u => u != v && reaches v u && reaches u v))
    else none
  comps.eraseDups.mergeSort fun a b => listLe a b
where
  /-- Lexicographic order of ID lists. -/
  listLe : List ShapeId → List ShapeId → Bool
    | [], _ => true
    | _ :: _, [] => false
    | x :: xs, y :: ys =>
      match ShapeId.compare x y with
      | .lt => true
      | .gt => false
      | .eq => listLe xs ys

/-- The labels of the edges from one node to another, latest first. -/
def edgesBetween (g : ShapeGraph) (src dst : ShapeId) : List ShapeId :=
  (g.edges.filterMap fun (a, b, l) => if a == src && b == dst then some l else none).reverse

end ShapeGraph

end ShapeKit
