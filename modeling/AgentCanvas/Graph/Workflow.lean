import AgentCanvas.Graph.Attributes

/-!
# Workflows

A workflow is what a canvas holds: nodes in their order and the edges between them. Nothing is
demanded of it here: ids may repeat, edges may lead nowhere and attributes may be unreadable, since
a canvas can be edited into any such state.

## Key definitions

- `Workflow`, `Node`, `Edge`.
- `Workflow.node?`: the node with an id.
- `Workflow.role?`: the role of an edge, from the kinds of its ends.
-/

namespace AgentCanvas

/-- The place of a node on the canvas. -/
structure Position where
  x : Binary64
  y : Binary64
  deriving DecidableEq

/-- A node, its attributes as they are stored. -/
structure Node where
  id : String
  kind : NodeKind
  position : Position
  data : Json
  deriving DecidableEq

/-- An edge from one node to another, both given by id. -/
structure Edge where
  id : String
  source : String
  target : String
  deriving DecidableEq

/-- The nodes and edges of a canvas, in order. -/
structure Workflow where
  nodes : List Node
  edges : List Edge
  deriving DecidableEq

namespace Node

/-- The attributes of a node. -/
def attributes (node : Node) : Except Rejection Attributes :=
  (Attributes.check node.kind node.data).orReject node.kind.shape

/-- The attributes of a node that is an agent. -/
def asAgent (node : Node) : Except Rejection Agent :=
  (Agent.check node.data).orReject .agent

/-- The attributes of a node that is a runner. -/
def asRunner (node : Node) : Except Rejection Runner :=
  (Runner.check node.data).orReject .runner

/-- The attributes of a node that is a function tool. -/
def asTool (node : Node) : Except Rejection Tool :=
  (Tool.check node.data).orReject .tool

end Node

namespace Workflow

/-- The workflow of an empty canvas. -/
def empty : Workflow :=
  ⟨[], []⟩

/-- The first node with an id, if there is one. -/
def node? (w : Workflow) (id : String) : Option Node :=
  w.nodes.find? fun node => node.id = id

/-- The nodes of a kind, in order. -/
def nodesOfKind (w : Workflow) (kind : NodeKind) : List Node :=
  w.nodes.filter fun node => node.kind = kind

/-- The edges that lead to a node, in order. -/
def incoming (w : Workflow) (id : String) : List Edge :=
  w.edges.filter fun edge => edge.target = id

/-- The edges that come from a node, in order. -/
def outgoing (w : Workflow) (id : String) : List Edge :=
  w.edges.filter fun edge => edge.source = id

/-- The role of a connection between two nodes given by id: none if one of them is missing, if
they are the same node or if their kinds cannot be connected. -/
def roleBetween (w : Workflow) (source target : String) : Option EdgeRole :=
  match w.node? source, w.node? target with
  | some s, some t => if s.id = t.id then none else EdgeRole.between s.kind t.kind
  | _, _ => none

/-- The role of an edge. -/
def role? (w : Workflow) (edge : Edge) : Option EdgeRole :=
  w.roleBetween edge.source edge.target

/-- Whether the canvas may add an edge between two nodes. -/
def canConnect (w : Workflow) (source target : String) : Bool :=
  (w.roleBetween source target).isSome

end Workflow

end AgentCanvas
