import AgentCanvas.Graph.Workflow

/-!
# Diagnostics

What keeps a workflow from being a sensible program. Diagnostics are advice: a program is generated
from any workflow. Finding them reads the attributes of all agents and of those runners that no
agent feeds, so it fails only if some of these are unreadable.

## Key definitions

- `Diagnostic`, `Diagnostic.message`.
- `Workflow.diagnose`: the diagnostics of a workflow, in order.
-/

namespace AgentCanvas

/-- Something that is amiss with a workflow. -/
inductive Diagnostic where
  | noNodes
  | noAgent
  | noRunner
  /-- No agent feeds a runner, which is named by its input or else by its id. -/
  | unconnectedRunner (label : String)
  | repeatedAgentName (name : String)
  /-- An edge names a node that does not exist. -/
  | unknownNode (edge : String) (node : String)
  /-- An edge connects nodes that cannot be connected. -/
  | invalidConnection (edge : String) (source target : NodeKind)
  deriving DecidableEq

/-- The wording of a diagnostic. -/
def Diagnostic.message : Diagnostic → String
  | noNodes => "no nodes in workflow"
  | noAgent => "workflow requires at least one Agent node"
  | noRunner => "workflow requires at least one Runner node to execute a task"
  | unconnectedRunner label => "Runner node '" ++ label ++ "' is not connected to any Agent"
  | repeatedAgentName name => "duplicate Agent name: " ++ name
  | unknownNode edge node => "edge '" ++ edge ++ "' references unknown node '" ++ node ++ "'"
  | invalidConnection edge source target =>
    "edge '" ++ edge ++ "' connects " ++ source.name ++ " to " ++ target.name ++
      ", which is not a valid connection"

/-- The names that occur a second time or are in `seen`, each once, in the order in which they are
repeated; `found` holds those that are known already. -/
def repeatedNames (seen found : List String) : List String → List String
  | [] => []
  | name :: rest =>
    if seen.contains name && !found.contains name then
      name :: repeatedNames seen (name :: found) rest
    else repeatedNames (name :: seen) found rest

namespace Workflow

/-- Whether some edge leads from an agent to the node with an id. -/
def isFed (w : Workflow) (id : String) : Bool :=
  (w.incoming id).any fun edge =>
    match w.node? edge.source with
    | some source => source.kind = .agent
    | none => false

/-- The runners that no agent feeds. -/
def unfedRunners (w : Workflow) : List Node :=
  (w.nodesOfKind .runner).filter fun node => !w.isFed node.id

/-- The diagnostics on which kinds of nodes are present. -/
def presenceDiagnostics (w : Workflow) : List Diagnostic :=
  (if (w.nodesOfKind .agent).isEmpty then [.noAgent] else []) ++
    (if (w.nodesOfKind .runner).isEmpty then [.noRunner] else [])

/-- The diagnostic of a runner that no agent feeds. -/
def unconnected (node : Node) : Except Rejection Diagnostic := do
  let runner ← node.asRunner
  return .unconnectedRunner (if runner.input = "" then node.id else runner.input)

/-- The names of the agents that have one. -/
def agentNames (w : Workflow) : Except Rejection (List String) := do
  let agents ← (w.nodesOfKind .agent).mapM Node.asAgent
  return (agents.map (·.name)).filter (· ≠ "")

/-- The diagnostics of one edge: one for each end that does not exist, or else one if the edge has
no role. -/
def edgeDiagnostics (w : Workflow) (edge : Edge) : List Diagnostic :=
  match w.node? edge.source, w.node? edge.target with
  | some source, some target =>
    if (w.role? edge).isSome then [] else [.invalidConnection edge.id source.kind target.kind]
  | some _, none => [.unknownNode edge.id edge.target]
  | none, some _ => [.unknownNode edge.id edge.source]
  | none, none => [.unknownNode edge.id edge.source, .unknownNode edge.id edge.target]

/-- The diagnostics of a workflow: on the kinds of nodes present, on runners, on the names of
agents and on edges. An empty workflow has one only. -/
def diagnose (w : Workflow) : Except Rejection (List Diagnostic) :=
  if w.nodes.isEmpty then .ok [.noNodes]
  else do
    let runners ← w.unfedRunners.mapM unconnected
    let names ← w.agentNames
    return w.presenceDiagnostics ++ runners ++ (repeatedNames [] [] names).map .repeatedAgentName ++
      w.edges.flatMap w.edgeDiagnostics

end Workflow

end AgentCanvas
