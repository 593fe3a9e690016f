import AgentCanvas.Graph.Kind
import AgentCanvas.Schema.Field

/-!
# Attributes of nodes

What a node of each kind says about itself, and how that is read from the object stored with the
node. A null member counts as absent, so an attribute without a value takes its default.

## Key definitions

- `Agent`, `Runner`, `Tool`: the attributes of the three kinds.
- `Attributes.check`: reading them for a kind.
-/

namespace AgentCanvas

/-- The form of an agent's answers. -/
inductive OutputFormat where
  | text
  | json
  | structured
  deriving DecidableEq

/-- The output formats by name. -/
def OutputFormat.byName : List (String × OutputFormat) :=
  [("text", text), ("json", json), ("structured", structured)]

/-- The name of an output format. -/
def OutputFormat.name : OutputFormat → String
  | text => "text"
  | json => "json"
  | structured => "structured"

/-- How a runner executes its agents. -/
inductive ExecutionMode where
  | sync
  | async
  deriving DecidableEq

/-- The execution modes by name. -/
def ExecutionMode.byName : List (String × ExecutionMode) :=
  [("sync", sync), ("async", async)]

/-- The name of an execution mode. -/
def ExecutionMode.name : ExecutionMode → String
  | sync => "sync"
  | async => "async"

/-- The attributes of an agent. -/
structure Agent where
  name : String
  description : String
  systemMessage : String
  outputFormat : OutputFormat
  schema : Option String
  deriving DecidableEq

/-- The attributes of a runner. -/
structure Runner where
  name : String
  input : String
  context : String
  executionMode : ExecutionMode
  deriving DecidableEq

/-- A parameter of a function tool. -/
structure Parameter where
  name : String
  type : String
  description : Option String
  required : Bool
  deriving DecidableEq

/-- The attributes of a function tool. -/
structure Tool where
  name : String
  parameters : List Parameter
  returnType : String
  implementation : String
  deriving DecidableEq

/-- The members of an object that are not null. -/
def Entries.withoutNulls (members : Members) : Members :=
  members.filter fun member => !member.2.isNull

open Checked

/-- Reads the attributes of an agent. The schema may also stand under an older key. -/
def Agent.check : Json → Checked Agent :=
  record .agent fun stored =>
    let members := stored.withoutNulls
    ((((valid Agent.mk
      |>.also (optional members "name" "New Agent" text))
      |>.also (optional members "description" "" text))
      |>.also (optional members "system_message" "" text))
      |>.also (optional members "output_type" .text (choice .unknownChoice OutputFormat.byName)))
      |>.also (optionalEither members "structured_schema" "pydantic_model" none
        fun value => (text value).map some)

/-- Reads the attributes of a runner. -/
def Runner.check : Json → Checked Runner :=
  record .runner fun stored =>
    let members := stored.withoutNulls
    (((valid Runner.mk
      |>.also (optional members "name" "New Runner" text))
      |>.also (optional members "input" "" text))
      |>.also (optional members "context" "" text))
      |>.also (optional members "execution_mode" .sync
        (choice .unknownChoice ExecutionMode.byName))

/-- Reads a parameter. Only its description may be null. -/
def Parameter.check : Json → Checked Parameter :=
  record .parameter fun members =>
    (((valid Parameter.mk
      |>.also (Checked.required members "name" text))
      |>.also (optional members "type" "str" text))
      |>.also (optional members "description" none
        fun value => if value.isNull then valid none else (text value).map some))
      |>.also (optional members "required" true flag)

/-- Reads the attributes of a function tool. -/
def Tool.check : Json → Checked Tool :=
  record .tool fun stored =>
    let members := stored.withoutNulls
    (((valid Tool.mk
      |>.also (optional members "name" "new_function" text))
      |>.also (optional members "parameters" [] (list Parameter.check)))
      |>.also (optionalEither members "returnType" "return_type" "str" text))
      |>.also (optional members "implementation" "" text)

/-- The attributes of a node of any kind. -/
inductive Attributes where
  | agent (attributes : Agent)
  | runner (attributes : Runner)
  | tool (attributes : Tool)
  deriving DecidableEq

/-- Reads the attributes of a node of the given kind. -/
def Attributes.check : NodeKind → Json → Checked Attributes
  | .agent, stored => (Agent.check stored).map .agent
  | .runner, stored => (Runner.check stored).map .runner
  | .tool, stored => (Tool.check stored).map .tool

/-- The record that the attributes of a kind form. -/
def NodeKind.shape : NodeKind → Shape
  | agent => .agent
  | runner => .runner
  | tool => .tool

end AgentCanvas
