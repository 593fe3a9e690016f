import AgentCanvas.Graph.Diagnostics
import AgentCanvas.Program.EntryPoint

/-!
# Program generation

The program that a workflow describes: its parts in a fixed order, those that are not blank joined
by one blank line, together with the diagnostics of the workflow.

## Key definitions

- `Blueprint.code`: the program of a blueprint.
- `Workflow.generate`: the program of a workflow with its diagnostics.
-/

namespace AgentCanvas

/-- The parts of a program. -/
inductive Part where
  | imports
  | schemas
  | tools
  | client
  | agents
  /-- Kept for runners; what they ask for stands in the entry point. -/
  | runners
  | entryPoint
  deriving DecidableEq

/-- All parts in the order in which a program holds them. -/
def Part.all : List Part :=
  [imports, schemas, tools, client, agents, runners, entryPoint]

namespace Blueprint

/-- The text of one part of a program. -/
def part (b : Blueprint) (d : Defaults) : Part → String
  | .imports => importsPart b.tools.length b.agents.length
  | .schemas => schemasPart (b.agents.map (·.value))
  | .tools => toolsPart d (b.tools.map (·.value))
  | .client => clientPart d b.agents.length
  | .agents => b.agentsPart d
  | .runners => ""
  | .entryPoint => (entryPoint d (b.agents.map (·.value)) b.runners).declaration

/-- The program of a blueprint. -/
def code (b : Blueprint) (d : Defaults) : String :=
  joinParts ((Part.all.map (b.part d)).filter fun text => !Text.isBlankText text)

end Blueprint

/-- The packages that every generated program needs. -/
def dependencies : List String :=
  ["autogen-agentchat", "autogen-ext"]

/-- A generated program with what there is to say about it. -/
structure Generation where
  code : String
  errors : List String
  warnings : List String
  dependencies : List String
  deriving DecidableEq

/-- The program of a workflow with its diagnostics, or the issues of the first node whose
attributes are unreadable. -/
def Workflow.generate (d : Defaults) (w : Workflow) : Except Rejection Generation := do
  let diagnostics ← w.diagnose
  let blueprint ← w.blueprint
  return ⟨blueprint.code d, diagnostics.map (·.message), [], dependencies⟩

/-- A generated program as JSON. -/
def Generation.toJson (g : Generation) : Json :=
  .obj [("code", .str g.code), ("errors", .arr (g.errors.map .str)),
    ("warnings", .arr (g.warnings.map .str)), ("dependencies", .arr (g.dependencies.map .str))]

end AgentCanvas
