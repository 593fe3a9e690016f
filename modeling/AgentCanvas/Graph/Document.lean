import AgentCanvas.Graph.Workflow

/-!
# Saved workflows

Reading a workflow from a saved document and writing it to one. The role of an edge is written with
it but never read, since the kinds of its ends determine it. Numbers that JSON cannot express are
written as null inside stored attributes.

An edge may come without an id. It is then given one that is drawn anew every time the document is
read, so that the ids drawn are a parameter of reading.

## Key definitions

- `Draws`: the ids that are drawn.
- `Workflow.ofDocument`: reading, with all issues of a document.
- `Workflow.toDocument`: writing.
-/

namespace AgentCanvas

open Checked

/-- Reads a position. -/
def Position.check : Json → Checked Position :=
  record .position fun members =>
    (valid Position.mk
      |>.also (optional members "x" .zero number))
      |>.also (optional members "y" .zero number)

/-- Refuses a node whose attributes cannot be read; the issues of the attributes stand at the node
itself. -/
def Node.checkAttributes (node : Node) : Checked Node :=
  (Attributes.check node.kind node.data).map fun _ => node

/-- Reads a node. The attributes are looked at only if the node is sound otherwise. -/
def Node.check : Json → Checked Node :=
  record .node fun members =>
    ((((valid Node.mk
      |>.also (required members "id" text))
      |>.also (required members "type" (choice .unknownKind NodeKind.byName)))
      |>.also (optional members "position" ⟨.zero, .zero⟩ Position.check))
      |>.also (optional members "data" (.obj []) object))
      |>.andThen Node.checkAttributes

/-- The ids drawn for edges without one, by the places of the edges in their document. -/
abbrev Draws : Type :=
  Nat → String

/-- The id that stands for all drawn ones where none are given. -/
def Edge.unnamed : String :=
  "00000000"

/-- Draws that are not told apart. -/
def Draws.same : Draws :=
  fun _ => Edge.unnamed

/-- Reads an edge. One without an id is given the one that is drawn. -/
def Edge.check (document : Json) (drawn : String := Edge.unnamed) : Checked Edge :=
  record .edge
    (fun members =>
      ((valid Edge.mk
        |>.also (optional members "id" drawn text))
        |>.also (required members "source" text))
        |>.also (required members "target" text))
    document

/-- The first item that stands in the list a second time or is in `seen`. -/
def firstRepeated? (seen : List String) : List String → Option String
  | [] => none
  | id :: rest => if seen.contains id then some id else firstRepeated? (id :: seen) rest

/-- Why a document is no workflow. -/
inductive DocumentError where
  /-- The document is no object. -/
  | notObject
  /-- The nodes and edges have issues. -/
  | invalid (rejection : Rejection)

/-- The wording of a document error. Of the issues it gives the headline only: what is said about
each of them in turn is left out. -/
def DocumentError.message : DocumentError → String
  | notObject => "workflow document must be a JSON object at the top level"
  | invalid rejection => "invalid workflow document: " ++ rejection.message

namespace Workflow

/-- Refuses a workflow in which two nodes share an id. -/
def checkDistinct (w : Workflow) : Checked Workflow :=
  match firstRepeated? [] (w.nodes.map (·.id)) with
  | some id => refuse (.repeatedNode id)
  | none => valid w

/-- The items of the list under a key; anything else has none. -/
def listed (members : Members) (key : String) : List Json :=
  match members.get? key with
  | some value => value.items
  | none => []

/-- The edges that a document lists, each with the id that is drawn for it. -/
def listedEdges (members : Members) (draws : Draws) : List (Json × String) :=
  (listed members "edges").mapIdx fun place item => (item, draws place)

/-- Reads the nodes and edges of a document. The ids of the nodes are compared only if all nodes
and edges are sound. -/
def check (members : Members) (draws : Draws) : Checked Workflow :=
  ((valid Workflow.mk
    |>.also ((each Node.check (listed members "nodes")).under (.key "nodes")))
    |>.also ((each (fun item => Edge.check item.1 item.2) (listedEdges members draws)).under
      (.key "edges")))
    |>.andThen checkDistinct

/-- The workflow that a document holds. -/
def ofDocument (document : Json) (draws : Draws := .same) : Except DocumentError Workflow :=
  match document with
  | .obj members =>
    match (check members draws).orReject .workflow with
    | .ok w => .ok w
    | .error rejection => .error (.invalid rejection)
  | _ => .error .notObject

end Workflow

/-! ## Writing -/

/-- A position as it is saved. -/
def Position.toDocument (position : Position) : Json :=
  .obj [("x", .float position.x), ("y", .float position.y)]

/-- A node as it is saved. -/
def Node.toDocument (node : Node) : Json :=
  .obj [("id", .str node.id), ("type", .str node.kind.name),
    ("position", node.position.toDocument), ("data", node.data.finiteOnly)]

/-- An edge as it is saved, without a role. -/
def Edge.members (edge : Edge) : Members :=
  [("id", .str edge.id), ("source", .str edge.source), ("target", .str edge.target)]

/-- The name of a role as it is saved; null for none. -/
def EdgeRole.document : Option EdgeRole → Json
  | some role => .str role.name
  | none => .null

namespace Workflow

/-- An edge as it is saved in a workflow. -/
def edgeDocument (w : Workflow) (edge : Edge) : Json :=
  .obj (edge.members ++ [("type", EdgeRole.document (w.role? edge))])

/-- The document that holds a workflow. -/
def toDocument (w : Workflow) : Json :=
  .obj [("nodes", .arr (w.nodes.map Node.toDocument)), ("edges", .arr (w.edges.map w.edgeDocument))]

end Workflow

end AgentCanvas
