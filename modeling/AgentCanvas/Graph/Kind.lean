/-!
# Kinds of nodes and roles of edges

The kinds of nodes that a canvas offers, and the role that an edge plays between two of them. The
kinds of its ends determine the role of an edge, so no edge stores one; a pair of kinds without a
role cannot be connected.
-/

namespace AgentCanvas

/-- The kinds of nodes. -/
inductive NodeKind where
  | agent
  | runner
  | tool
  deriving DecidableEq

namespace NodeKind

/-- All kinds, in the order in which they are offered. -/
def all : List NodeKind :=
  [agent, runner, tool]

/-- The name of a kind in documents. -/
def name : NodeKind → String
  | agent => "agent"
  | runner => "runner"
  | tool => "functionTool"

/-- The kinds by name. -/
def byName : List (String × NodeKind) :=
  all.map fun kind => (kind.name, kind)

/-- The kind with a name, if there is one. -/
def ofName? (name : String) : Option NodeKind :=
  byName.lookup name

end NodeKind

/-- The roles of edges. -/
inductive EdgeRole where
  /-- One agent hands over to another. -/
  | handoff
  /-- A tool is at the disposal of an agent. -/
  | tool
  /-- A runner executes an agent. -/
  | execute
  deriving DecidableEq

/-- The name of a role in documents. -/
def EdgeRole.name : EdgeRole → String
  | handoff => "handoff"
  | tool => "tool"
  | execute => "execute"

/-- The role of an edge between nodes of two kinds, if they can be connected. -/
def EdgeRole.between : NodeKind → NodeKind → Option EdgeRole
  | .agent, .agent => some handoff
  | .tool, .agent => some tool
  | .agent, .runner => some execute
  | _, _ => none

end AgentCanvas
