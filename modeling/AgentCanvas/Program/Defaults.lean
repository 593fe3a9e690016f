import AgentCanvas.Schema.Field

/-!
# Generation defaults

The values that stand in a generated program where the workflow leaves a blank.
-/

namespace AgentCanvas

/-- Values for what a workflow leaves blank. -/
structure Defaults where
  model : String
  agentName : String
  task : String
  terminationToken : String
  toolName : String
  returnType : String
  deriving DecidableEq

namespace Defaults

/-- The built-in defaults. -/
def builtIn : Defaults where
  model := "gpt-4o"
  agentName := "unnamed_agent"
  task := "Hello World!"
  terminationToken := "TERMINATE"
  toolName := "new_function"
  returnType := "str"

/-- Reads defaults; those that are not given are built in. -/
def check : Json → Checked Defaults :=
  open Checked in
  record .defaults fun members =>
    (((((valid Defaults.mk
      |>.also (optional members "model" builtIn.model text))
      |>.also (optional members "agent_name" builtIn.agentName text))
      |>.also (optional members "task" builtIn.task text))
      |>.also (optional members "termination_token" builtIn.terminationToken text))
      |>.also (optional members "tool_name" builtIn.toolName text))
      |>.also (optional members "return_type" builtIn.returnType text)

end Defaults

/-- A text, or another one in place of the empty text. -/
def orElse (text other : String) : String :=
  if text = "" then other else text

end AgentCanvas
