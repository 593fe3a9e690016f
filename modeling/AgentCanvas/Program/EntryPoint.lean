import AgentCanvas.Program.Declarations

/-!
# Entry points

The end of a generated program, which runs it. A program without agents or runners only prints what
is missing; a single agent is run directly, and several agents take turns as a team. The task is
that of the first runner.

## Key definitions

- `EntryPoint`, `Blueprint.entryPoint`: the forms of an entry point, and which one a blueprint has.
- `EntryPoint.declaration`: their text.
-/

namespace AgentCanvas

open Listing (render)
open Text (quote)

/-- How a program is run. -/
inductive EntryPoint where
  /-- There is nothing to run. -/
  | guidance
  /-- One agent is given a task. -/
  | single (agent task : String) (mode : ExecutionMode)
  /-- Several agents take turns at a task until one of them mentions the token. -/
  | team (agents : List String) (task token : String)
  deriving DecidableEq

/-- The mode of a single agent: asynchronous if some runner is. -/
def commonMode (runners : List Runner) : ExecutionMode :=
  if runners.any (·.executionMode = .async) then .async else .sync

/-- The entry point for agents and runners. -/
def entryPoint (d : Defaults) (agents : List Agent) (runners : List Runner) : EntryPoint :=
  match runners, agents with
  | [], _ => .guidance
  | _, [] => .guidance
  | first :: _, [agent] => .single (agent.identifier d) (orElse first.input d.task)
      (commonMode runners)
  | first :: _, agents => .team (agents.map (·.identifier d)) (orElse first.input d.task)
      d.terminationToken

namespace EntryPoint

/-- The condition under which a program runs its entry point. -/
def scriptGuard : Listing.Step :=
  .line "if __name__ == \"__main__\":"

/-- The steps that close the model client whatever happened before. -/
def closeClient (mode : ExecutionMode) : List Listing.Step :=
  [.line "finally:", .indent,
    .line (if mode = .async then "await model_client.close()" else "model_client.close()"),
    .dedent, .dedent, .blank, scriptGuard, .indent,
    .line (if mode = .async then "asyncio.run(main())" else "main()")]

/-- The entry point that says what is missing. -/
def guidanceSteps : List Listing.Step :=
  [scriptGuard, .indent,
    .line ("print(" ++ quote "Add Agent and Runner nodes to generate runnable code" ++ ")")]

/-- The entry point that runs a single agent. -/
def singleSteps (agent task : String) (mode : ExecutionMode) : List Listing.Step :=
  [.line (if mode = .async then "async def main() -> None:" else "def main() -> None:"), .indent,
    .line "model_client = get_model_client()",
    .line "try:", .indent,
    .line ((if mode = .async then "result = await " ++ agent ++ ".run(task="
      else "result = " ++ agent ++ ".run_sync(task=") ++ quote task ++ ")"),
    .line "print(result)", .dedent] ++ closeClient mode

/-- The entry point that runs a team. -/
def teamSteps (agents : List String) (task token : String) : List Listing.Step :=
  [.line "async def main() -> None:", .indent,
    .line "model_client = get_model_client()", .blank,
    .comment "Stop once any agent mentions the termination token",
    .line ("termination = TextMentionTermination(" ++ quote token ++ ")"), .blank,
    .comment "Agents take turns in node order",
    .line "team = RoundRobinGroupChat(", .indent,
    .line ("[" ++ ", ".intercalate agents ++ "],"),
    .line "termination_condition=termination", .dedent,
    .line ")", .blank,
    .line "try:", .indent,
    .line ("await Console(team.run_stream(task=" ++ quote task ++ "))"), .dedent] ++
    closeClient .async

/-- The steps that write an entry point. -/
def steps : EntryPoint → List Listing.Step
  | guidance => guidanceSteps
  | single agent task mode => singleSteps agent task mode
  | team agents task token => teamSteps agents task token

/-- The text of an entry point. -/
def declaration (e : EntryPoint) : String :=
  render e.steps

end EntryPoint

end AgentCanvas
