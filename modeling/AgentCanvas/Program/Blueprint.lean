import AgentCanvas.Graph.Connections
import AgentCanvas.Graph.Workflow

/-!
# Blueprints

What a program is generated from: the attributes of the agents, runners and tools of a workflow in
node order, and the connections between the nodes. Ids matter only for finding the tools that are
connected to an agent.
-/

namespace AgentCanvas

/-- A value together with the id of its node. -/
structure Identified (α : Type) where
  id : String
  value : α
  deriving DecidableEq

/-- The parts of a program. -/
structure Blueprint where
  agents : List (Identified Agent)
  runners : List Runner
  tools : List (Identified Tool)
  connections : Connections
  deriving DecidableEq

/-- The attributes of a node together with its id. -/
def Node.identify {α : Type} (read : Node → Except Rejection α) (node : Node) :
    Except Rejection (Identified α) := do
  return ⟨node.id, ← read node⟩

/-- The runners of a program. Without an agent there is nothing to run, so no runner is read. -/
def Workflow.activeRunners (w : Workflow) : List Node :=
  if (w.nodesOfKind .agent).isEmpty then [] else w.nodesOfKind .runner

/-- The blueprint of a workflow, or the issues of the first node whose attributes are unreadable:
agents come first, then tools, then runners. -/
def Workflow.blueprint (w : Workflow) : Except Rejection Blueprint := do
  let agents ← (w.nodesOfKind .agent).mapM (Node.identify Node.asAgent)
  let tools ← (w.nodesOfKind .tool).mapM (Node.identify Node.asTool)
  let runners ← w.activeRunners.mapM Node.asRunner
  return ⟨agents, runners, tools, Connections.ofEdges w.edges⟩

end AgentCanvas
