import AgentCanvas.Program.Blueprint
import AgentCanvas.Program.Listing
import AgentCanvas.Program.Name
import AgentCanvas.Text.Quoted

/-!
# Declarations of a program

The parts of a generated program in front of its entry point: imports, schemas of structured
answers, functions of tools, the factory of model clients and the agents. A part with nothing to
declare is the empty text.

## Key definitions

- `importsPart`, `schemasPart`, `toolsPart`, `clientPart`, `agentsPart`: the parts.
- `Tool.declaration`, `Agent.declaration`: single declarations.
- `Blueprint.toolNamesFor`: the tools of an agent.
-/

namespace AgentCanvas

open Listing (render)
open Text (quote)

/-- Joins declarations with one blank line between them. -/
def joinParts (parts : List String) : String :=
  "\n\n".intercalate parts

/-! ## Imports -/

/-- The imports of every program. -/
def baseImports : List String :=
  ["import asyncio",
    "from autogen_agentchat.agents import AssistantAgent",
    "from autogen_ext.models.openai import OpenAIChatCompletionClient"]

/-- The imports of a program with function tools. -/
def toolImports : List String :=
  ["from autogen_agentchat.base import Response",
    "from autogen_agentchat.messages import TextMessage"]

/-- The imports of a program with several agents. -/
def teamImports : List String :=
  ["from autogen_agentchat.teams import RoundRobinGroupChat",
    "from autogen_agentchat.conditions import TextMentionTermination",
    "from autogen_agentchat.ui import Console"]

/-- The imports of a program with so many tools and agents. -/
def importsPart (tools agents : Nat) : String :=
  Text.joinLines (baseImports ++ (if 0 < tools then toolImports else []) ++
    (if 1 < agents then teamImports else []))

/-! ## Schemas of structured answers -/

/-- The schema of an agent with structured answers, unless it is the empty text. -/
def Agent.declaredSchema (a : Agent) : Option String :=
  if a.outputFormat = .structured then a.schema.filter (· ≠ "") else none

/-- The schemas of all agents, as they are, after the import that they need. -/
def schemasPart (agents : List Agent) : String :=
  match agents.filterMap Agent.declaredSchema with
  | [] => ""
  | schemas => "from pydantic import BaseModel\n\n" ++ joinParts schemas

/-! ## Functions of tools -/

/-- A parameter in the signature of a function. -/
def Parameter.declaration (p : Parameter) : String :=
  p.name ++ ": " ++ p.type

/-- The signature of a tool's function. -/
def Tool.signature (d : Defaults) (t : Tool) : String :=
  "def " ++ t.functionName d ++ "(" ++ ", ".intercalate (t.parameters.map Parameter.declaration) ++
    ") -> " ++ orElse t.returnType d.returnType ++ ":"

/-- The body of a tool's function: its implementation, or a body to be filled in. -/
def Tool.body (t : Tool) : List Listing.Step :=
  if t.implementation = "" then
    [.line "\"\"\"Implement the tool logic here.\"\"\"", .line "pass"]
  else [.block t.implementation]

/-- The function of a tool. -/
def Tool.declaration (d : Defaults) (t : Tool) : String :=
  render ([.line (t.signature d), .indent] ++ t.body ++ [.dedent])

/-- The functions of all tools. -/
def toolsPart (d : Defaults) (tools : List Tool) : String :=
  joinParts (tools.map (Tool.declaration d))

/-! ## Model clients -/

/-- The factory of model clients. -/
def clientDeclaration (d : Defaults) : String :=
  render
    [.line "def get_model_client() -> OpenAIChatCompletionClient:", .indent,
      .line "return OpenAIChatCompletionClient(", .indent,
      .line ("model=" ++ quote d.model ++ ","),
      .comment "api_key=\"your-api-key-here\",  # or set the OPENAI_API_KEY environment variable",
      .dedent, .line ")"]

/-- The factory of model clients, for a program with so many agents. -/
def clientPart (d : Defaults) (agents : Nat) : String :=
  if agents = 0 then "" else clientDeclaration d

/-! ## Agents -/

/-- The argument that hands texts to an agent, unless the text is empty. -/
def textArgument (name text : String) : List Listing.Step :=
  if text = "" then [] else [.line (name ++ "=" ++ quote text ++ ",")]

/-- The argument that hands tools to an agent, if there are any. -/
def toolsArgument (names : List String) : List Listing.Step :=
  if names.isEmpty then [] else [.line ("tools=[" ++ ", ".intercalate names ++ "],")]

/-- The declaration of an agent with the tools of the given names. -/
def Agent.declaration (d : Defaults) (a : Agent) (toolNames : List String) : String :=
  render ([.line (a.identifier d ++ " = AssistantAgent("), .indent,
      .line ("name=" ++ quote (a.displayName d) ++ ","),
      .line "model_client=get_model_client(),"] ++
    textArgument "description" a.description ++
    textArgument "system_message" a.systemMessage ++
    toolsArgument toolNames ++
    [.dedent, .line ")"])

namespace Blueprint

/-- The function name of the tool with an id. Of several tools with one id the last counts. -/
def toolName? (b : Blueprint) (d : Defaults) (id : String) : Option String :=
  (b.tools.reverse.find? fun tool => tool.id = id).map (·.value.functionName d)

/-- The function names of the tools connected to the agent with an id, each once, in the order of
the connections. -/
def toolNamesFor (b : Blueprint) (d : Defaults) (id : String) : List String :=
  ((b.connections.sources id).filterMap (b.toolName? d)).eraseDups

/-- The declarations of all agents. -/
def agentsPart (b : Blueprint) (d : Defaults) : String :=
  joinParts (b.agents.map fun agent => agent.value.declaration d (b.toolNamesFor d agent.id))

end Blueprint

end AgentCanvas
