import AgentCanvas.Graph.Document

/-!
# Edits of a canvas

The changes that a user makes to a workflow. What is added is checked on its own; that its id is
new is not checked. Removing a node leaves its edges in place, and stored attributes are replaced
unchecked.

## Key definitions

- `Edit`, `Workflow.edit`: one change and what it makes of a workflow.
- `position?`: places in a list, also counted from its end.
-/

namespace AgentCanvas

/-- A change of a workflow. -/
inductive Edit where
  | appendNode (document : Json)
  /-- An edge is added, with the drawn id if it has none. -/
  | appendEdge (document : Json) (drawn : String := Edge.unnamed)
  | removeNode (index : Int)
  | removeEdge (index : Int)
  | setData (index : Int) (data : Json)

/-- Why a change cannot be made. -/
inductive EditError where
  /-- What was to be added has issues. -/
  | rejected (rejection : Rejection)
  /-- There is nothing to remove at the index. -/
  | nothingToRemove
  /-- There is no node at the index. -/
  | noNode

/-- The place that an index means in a list of the given length: negative indices count from the
end. -/
def position? (length : Nat) (index : Int) : Option Nat :=
  let place := if index < 0 then index + length else index
  if 0 ≤ place ∧ place < length then some place.toNat else none

namespace Workflow

/-- The node at an index. -/
def nodeAt? (w : Workflow) (index : Int) : Option Node :=
  (position? w.nodes.length index).bind (w.nodes[·]?)

/-- Adds a node after those present. -/
def appendNode (w : Workflow) (node : Node) : Workflow :=
  { w with nodes := w.nodes ++ [node] }

/-- Adds an edge after those present. -/
def appendEdge (w : Workflow) (edge : Edge) : Workflow :=
  { w with edges := w.edges ++ [edge] }

/-- Replaces the stored attributes of the node at a place. -/
def setData (w : Workflow) (place : Nat) (data : Json) : Workflow :=
  { w with nodes := w.nodes.modify place fun node => { node with data := data } }

/-- A workflow after a change, or why the change cannot be made. -/
def edit (w : Workflow) : Edit → Except EditError Workflow
  | .appendNode document =>
    match (Node.check document).orReject .node with
    | .ok node => .ok (w.appendNode node)
    | .error rejection => .error (.rejected rejection)
  | .appendEdge document drawn =>
    match (Edge.check document drawn).orReject .edge with
    | .ok edge => .ok (w.appendEdge edge)
    | .error rejection => .error (.rejected rejection)
  | .removeNode index =>
    match position? w.nodes.length index with
    | some place => .ok { w with nodes := w.nodes.eraseIdx place }
    | none => .error .nothingToRemove
  | .removeEdge index =>
    match position? w.edges.length index with
    | some place => .ok { w with edges := w.edges.eraseIdx place }
    | none => .error .nothingToRemove
  | .setData index data =>
    match position? w.nodes.length index with
    | some place => .ok (w.setData place data)
    | none => .error .noNode

end Workflow

end AgentCanvas
