import AgentCanvas.Graph.Workflow

/-!
# Connections

The ids of the nodes that feed each node. Targets stand in the order in which edges first lead to
them and sources in the order of their edges, repeated as often as edges repeat them.

## Key definitions

- `Connections.ofEdges`: the connections that edges make.
- `Connections.sources`: the sources of a target.

## Key results

- `Connections.sources_ofEdges`: the sources of a target are those of the edges that lead to it.
-/

namespace AgentCanvas

/-- Sources by target. -/
abbrev Connections : Type :=
  Entries (List String)

namespace Connections

/-- The sources of a target; none if nothing leads to it. -/
def sources (connections : Connections) (target : String) : List String :=
  (connections.get? target).getD []

/-- Adds an edge after those present. -/
def add (connections : Connections) (edge : Edge) : Connections :=
  connections.put edge.target (connections.sources edge.target ++ [edge.source])

/-- The connections that edges make. -/
def ofEdges (edges : List Edge) : Connections :=
  edges.foldl add []

/-- Adding an edge adds its source to those of its target and to no others. -/
theorem sources_add (connections : Connections) (edge : Edge) (target : String) :
    (connections.add edge).sources target =
      connections.sources target ++ if edge.target = target then [edge.source] else [] := by
  unfold add sources
  rw [Entries.get?_put]
  by_cases h : edge.target = target <;> simp [h]

/-- Adding edges one after another adds the sources of those that lead to a target. -/
theorem sources_foldl_add (edges : List Edge) (connections : Connections) (target : String) :
    (edges.foldl add connections).sources target =
      connections.sources target ++ (edges.filter (·.target = target)).map (·.source) := by
  induction edges generalizing connections with
  | nil => simp
  | cons edge rest ih =>
    rw [List.foldl_cons, ih, sources_add]
    by_cases h : edge.target = target <;> simp [h]

/-- The sources of a target are the sources of the edges that lead to it, in order. -/
theorem sources_ofEdges (w : Workflow) (target : String) :
    (ofEdges w.edges).sources target = (w.incoming target).map (·.source) := by
  rw [ofEdges, sources_foldl_add]
  rfl

end Connections

end AgentCanvas
