import AgentCanvas.Program.EntryPoint
import AgentCanvas.Proofs.Program.Name
import AgentCanvas.Proofs.Text.Lines

/-!
# Lines of declarations

How the declarations of a program are laid out line by line. What they quote and the names that they
hold stay on their lines, so every line is known as a whole. Only the functions of tools hold text
with line breaks of its own.

## Key definitions

- `Agent.lines`, `clientLines`, `EntryPoint.lines`: the lines of declarations.
- `EntryPoint.agents`: the agents that an entry point refers to.

## Key results

- `Agent.lines_declaration`, `lines_clientDeclaration`, `EntryPoint.lines_declaration`: declarations
  consist of these lines.
- `Tool.exists_line_declaration`: the line in which the function of a tool is named.
-/

namespace AgentCanvas

open Listing (atDepth startAt step render)
open Text (quote IsNameText joinLines newline_not_mem_quote)

/-! ## Written lines -/

namespace Listing

/-- What a step writes depends on the depth only. -/
theorem step_eq (l : Listing) (s : Step) : l.step s =
    ⟨l.lines ++ ((startAt l.depth).step s).lines, ((startAt l.depth).step s).depth⟩ := by
  cases s <;> simp [step, append, startAt]

/-- Steps write their lines behind those that are there. -/
theorem lines_write (l : Listing) (steps : List Step) :
    (l.write steps).lines = l.lines ++ ((startAt l.depth).write steps).lines := by
  induction steps generalizing l with
  | nil => simp [write, startAt]
  | cons s rest ih =>
    have hcons (l : Listing) : l.write (s :: rest) = (l.step s).write rest := rfl
    -- both listings are at the same depth after the first step
    rw [hcons, hcons, ih, ih ((startAt l.depth).step s), step_eq l s, List.append_assoc]

theorem atDepth_zero (text : String) : atDepth 0 text = text := by
  by_cases h : text = ""
  · rw [atDepth, if_pos h, h]
  · rw [atDepth, if_neg h]
    exact String.empty_append

theorem atDepth_one {text : String} (h : text ≠ "") : atDepth 1 text = "    " ++ text := by
  rw [atDepth, if_neg h]
  rfl

theorem atDepth_two {text : String} (h : text ≠ "") : atDepth 2 text = "        " ++ text := by
  rw [atDepth, if_neg h]
  rfl

end Listing

theorem newline_not_mem_ofList {cs : List Char} (h : '\n' ∉ cs) :
    '\n' ∉ (String.ofList cs).toList := by
  rwa [String.toList_ofList]

theorem newline_not_mem_append {s t : String} (hs : '\n' ∉ s.toList) (ht : '\n' ∉ t.toList) :
    '\n' ∉ (s ++ t).toList := by
  simp [hs, ht]

theorem newline_not_mem_of_isNameText {s : String} (h : IsNameText s) : '\n' ∉ s.toList :=
  fun hmem => absurd (h '\n' hmem) (by decide)

/-- A list of names does not span lines. -/
theorem newline_not_mem_intercalate {names : List String} (h : ∀ name ∈ names, IsNameText name) :
    '\n' ∉ (", ".intercalate names).toList := by
  induction names with
  | nil => simp
  | cons first rest ih =>
    obtain ⟨hfirst, hrest⟩ := List.forall_mem_cons.mp h
    have hname := newline_not_mem_of_isNameText hfirst
    cases rest with
    | nil => rwa [String.intercalate_singleton]
    | cons next rest =>
      rw [String.intercalate_cons_cons]
      exact newline_not_mem_append (newline_not_mem_append hname (by decide)) (ih hrest)

/-! ## Agents -/

/-- The line that hands a text to an agent, unless the text is empty. -/
def textLines (name text : String) : List String :=
  if text = "" then [] else ["    " ++ (name ++ "=" ++ quote text ++ ",")]

/-- The line that hands tools to an agent, if there are any. -/
def toolsLines (names : List String) : List String :=
  if names = [] then [] else ["    " ++ ("tools=[" ++ ", ".intercalate names ++ "],")]

/-- What holds of the line that hands over a text holds of all such lines. -/
theorem forall_mem_textLines {P : String → Prop} {name text : String}
    (h : P ("    " ++ (name ++ "=" ++ quote text ++ ","))) :
    ∀ line ∈ textLines name text, P line := by
  unfold textLines
  split
  · exact List.forall_mem_nil _
  · exact List.forall_mem_singleton.mpr h

theorem forall_mem_toolsLines {P : String → Prop} {names : List String}
    (h : P ("    " ++ ("tools=[" ++ ", ".intercalate names ++ "],"))) :
    ∀ line ∈ toolsLines names, P line := by
  unfold toolsLines
  split
  · exact List.forall_mem_nil _
  · exact List.forall_mem_singleton.mpr h

theorem write_textArgument (lines : List String) (name text : String) :
    (⟨lines, 1⟩ : Listing).write (textArgument name text) = ⟨lines ++ textLines name text, 1⟩ := by
  by_cases h : text = ""
  · simp [textArgument, textLines, h, Listing.write]
  · have hline : atDepth 1 (name ++ "=" ++ quote text ++ ",") =
        "    " ++ (name ++ "=" ++ quote text ++ ",") := Listing.atDepth_one (by simp)
    simp [textArgument, textLines, h, Listing.write, step, Listing.append, hline]

theorem write_toolsArgument (lines : List String) (names : List String) :
    (⟨lines, 1⟩ : Listing).write (toolsArgument names) = ⟨lines ++ toolsLines names, 1⟩ := by
  by_cases h : names = []
  · simp [toolsArgument, toolsLines, h, Listing.write]
  · have hline : atDepth 1 ("tools=[" ++ ", ".intercalate names ++ "],") =
        "    " ++ ("tools=[" ++ ", ".intercalate names ++ "],") := Listing.atDepth_one (by simp)
    simp [toolsArgument, toolsLines, h, Listing.write, step, Listing.append, hline]

namespace Agent

/-- The first line of an agent's declaration. -/
def headLine (identifier : String) : String :=
  identifier ++ " = AssistantAgent("

/-- The lines of an agent's declaration with the tools of the given names. -/
def lines (d : Defaults) (a : Agent) (toolNames : List String) : List String :=
  [headLine (a.identifier d), "    " ++ ("name=" ++ quote (a.displayName d) ++ ","),
      "    model_client=get_model_client(),"] ++
    textLines "description" a.description ++ textLines "system_message" a.systemMessage ++
    toolsLines toolNames ++ [")"]

theorem declaration_eq (d : Defaults) (a : Agent) (toolNames : List String) :
    a.declaration d toolNames = joinLines (a.lines d toolNames) := by
  have hhead : (startAt 0).write [.line (a.identifier d ++ " = AssistantAgent("), .indent,
      .line ("name=" ++ quote (a.displayName d) ++ ","),
      .line "model_client=get_model_client(),"] =
      ⟨[headLine (a.identifier d), "    " ++ ("name=" ++ quote (a.displayName d) ++ ","),
        "    model_client=get_model_client(),"], 1⟩ := by
    have hidentifier : atDepth 0 (a.identifier d ++ " = AssistantAgent(") =
        headLine (a.identifier d) := Listing.atDepth_zero _
    have hname : atDepth 1 ("name=" ++ quote (a.displayName d) ++ ",") =
        "    " ++ ("name=" ++ quote (a.displayName d) ++ ",") := Listing.atDepth_one (by simp)
    rw [← hidentifier, ← hname]
    rfl
  have hend (lines : List String) :
      (⟨lines, 1⟩ : Listing).write [.dedent, .line ")"] = ⟨lines ++ [")"], 0⟩ := rfl
  -- the arguments are written one after another, all at the depth behind the open bracket
  rw [declaration, render, Listing.write_append, Listing.write_append, Listing.write_append,
    Listing.write_append, hhead, write_textArgument, write_textArgument, write_toolsArgument, hend]
  rfl

/-- Names and quoted texts do not break the lines of a declaration. -/
theorem newline_not_mem_lines (d : Defaults) (a : Agent) {toolNames : List String}
    (h : ∀ name ∈ toolNames, IsNameText name) :
    ∀ line ∈ a.lines d toolNames, '\n' ∉ line.toList := by
  have hhead : '\n' ∉ (headLine (a.identifier d)).toList :=
    newline_not_mem_append (newline_not_mem_of_isNameText (a.isNameText_identifier d)) (by decide)
  have hname : '\n' ∉ ("    " ++ ("name=" ++ quote (a.displayName d) ++ ",")).toList := by
    simp [newline_not_mem_quote]
  have htext {name text : String} (hname : '\n' ∉ name.toList) :
      ∀ line ∈ textLines name text, '\n' ∉ line.toList :=
    forall_mem_textLines (by simp [hname, newline_not_mem_quote])
  have htools : ∀ line ∈ toolsLines toolNames, '\n' ∉ line.toList :=
    forall_mem_toolsLines (newline_not_mem_append (by decide) (newline_not_mem_append
      (newline_not_mem_append (by decide) (newline_not_mem_intercalate h)) (by decide)))
  simp only [lines, List.forall_mem_append, List.forall_mem_cons]
  exact ⟨⟨⟨⟨⟨hhead, hname, by decide, List.forall_mem_nil _⟩, htext (by decide)⟩,
    htext (by decide)⟩, htools⟩, by decide, List.forall_mem_nil _⟩

/-- The lines of an agent's declaration. -/
theorem lines_declaration (d : Defaults) (a : Agent) {toolNames : List String}
    (h : ∀ name ∈ toolNames, IsNameText name) :
    Text.lines (a.declaration d toolNames) = a.lines d toolNames := by
  rw [declaration_eq]
  exact Text.lines_joinLines_of_forall (by simp [lines]) (a.newline_not_mem_lines d h)

end Agent

/-! ## Model clients -/

/-- The lines of the factory of model clients. -/
def clientLines (d : Defaults) : List String :=
  ["def get_model_client() -> OpenAIChatCompletionClient:",
    "    return OpenAIChatCompletionClient(",
    "        " ++ ("model=" ++ quote d.model ++ ","),
    "        # api_key=\"your-api-key-here\",  # or set the OPENAI_API_KEY environment variable",
    "    )"]

/-- The lines of the factory of model clients. -/
theorem lines_clientDeclaration (d : Defaults) :
    Text.lines (clientDeclaration d) = clientLines d := by
  have hmodel : atDepth 2 ("model=" ++ quote d.model ++ ",") =
      "        " ++ ("model=" ++ quote d.model ++ ",") := Listing.atDepth_two (by simp)
  have hlines : clientDeclaration d = joinLines (clientLines d) := by
    rw [clientLines, ← hmodel]
    rfl
  rw [hlines]
  refine Text.lines_joinLines_of_forall (List.cons_ne_nil _ _) ?_
  simp only [clientLines, List.forall_mem_cons]
  refine ⟨newline_not_mem_ofList (by decide), newline_not_mem_ofList (by decide), ?_,
    newline_not_mem_ofList (by decide), newline_not_mem_ofList (by decide), List.forall_mem_nil _⟩
  simp [newline_not_mem_quote]

/-! ## Entry points -/

namespace EntryPoint

/-- The first line of the function that runs the program. -/
def mainLine : ExecutionMode → String
  | .sync => "def main() -> None:"
  | .async => "async def main() -> None:"

/-- The line that runs a single agent. -/
def runLine (agent task : String) : ExecutionMode → String
  | .sync => "        " ++ ("result = " ++ agent ++ ".run_sync(task=" ++ quote task ++ ")")
  | .async => "        " ++ ("result = await " ++ agent ++ ".run(task=" ++ quote task ++ ")")

/-- The line that names the termination token of a team. -/
def tokenLine (token : String) : String :=
  "    " ++ ("termination = TextMentionTermination(" ++ quote token ++ ")")

/-- The line that lists the agents of a team. -/
def teamLine (agents : List String) : String :=
  "        " ++ ("[" ++ ", ".intercalate agents ++ "],")

/-- The line that runs a team. -/
def streamLine (task : String) : String :=
  "        " ++ ("await Console(team.run_stream(task=" ++ quote task ++ "))")

/-- The lines that close the model client and run the program. -/
def closingLines : ExecutionMode → List String
  | .sync => ["    finally:", "        model_client.close()", "",
      "if __name__ == \"__main__\":", "    main()"]
  | .async => ["    finally:", "        await model_client.close()", "",
      "if __name__ == \"__main__\":", "    asyncio.run(main())"]

/-- The lines of an entry point. -/
def lines : EntryPoint → List String
  | guidance => ["if __name__ == \"__main__\":",
      "    print(\"Add Agent and Runner nodes to generate runnable code\")"]
  | single agent task mode =>
      [mainLine mode, "    model_client = get_model_client()", "    try:", runLine agent task mode,
        "        print(result)"] ++ closingLines mode
  | team agents task token =>
      [mainLine .async, "    model_client = get_model_client()", "",
        "    # Stop once any agent mentions the termination token", tokenLine token, "",
        "    # Agents take turns in node order", "    team = RoundRobinGroupChat(",
        teamLine agents, "        termination_condition=termination", "    )", "", "    try:",
        streamLine task] ++ closingLines .async

/-- Closing the client ends the function that runs the program, in whose body this is done. -/
theorem lines_write_closeClient {l : Listing} {front : List String} (h : l = ⟨front, 1⟩)
    (mode : ExecutionMode) :
    (l.write (closeClient mode)).lines = front ++ closingLines mode := by
  rw [Listing.lines_write, h]
  cases mode <;> rfl

/-- The steps of an entry point write its lines. -/
theorem lines_write_steps (e : EntryPoint) : ((startAt 0).write e.steps).lines = e.lines := by
  cases e with
  | guidance => rfl
  | single agent task mode =>
    -- the line that runs the agent is the only one that is not the same for all agents
    cases mode with
    | sync =>
      have hrun : atDepth 2 ("result = " ++ agent ++ ".run_sync(task=" ++ quote task ++ ")") =
          runLine agent task .sync := Listing.atDepth_two (by simp)
      rw [lines, ← hrun, steps, singleSteps, Listing.write_append]
      exact lines_write_closeClient rfl _
    | async =>
      have hrun : atDepth 2 ("result = await " ++ agent ++ ".run(task=" ++ quote task ++ ")") =
          runLine agent task .async := Listing.atDepth_two (by simp)
      rw [lines, ← hrun, steps, singleSteps, Listing.write_append]
      exact lines_write_closeClient rfl _
  | team agents task token =>
    have htoken : atDepth 1 ("termination = TextMentionTermination(" ++ quote token ++ ")") =
        tokenLine token := Listing.atDepth_one (by simp)
    have hteam : atDepth 2 ("[" ++ ", ".intercalate agents ++ "],") = teamLine agents :=
      Listing.atDepth_two (by simp)
    have hstream : atDepth 2 ("await Console(team.run_stream(task=" ++ quote task ++ "))") =
        streamLine task := Listing.atDepth_two (by simp)
    rw [lines, ← htoken, ← hteam, ← hstream, steps, teamSteps, Listing.write_append]
    exact lines_write_closeClient rfl _

/-- The agents that an entry point refers to. -/
def agents : EntryPoint → List String
  | guidance => []
  | single agent _ _ => [agent]
  | team agents _ _ => agents

/-- Names and quoted texts do not break the lines of an entry point. -/
theorem newline_not_mem_lines {e : EntryPoint} (h : ∀ name ∈ e.agents, IsNameText name) :
    ∀ line ∈ e.lines, '\n' ∉ line.toList := by
  have hmain (mode : ExecutionMode) : '\n' ∉ (mainLine mode).toList := by
    cases mode <;> exact newline_not_mem_ofList (by decide)
  have hclosing (mode : ExecutionMode) : ∀ line ∈ closingLines mode, '\n' ∉ line.toList := by
    cases mode <;> simp only [closingLines, List.forall_mem_cons] <;>
      refine ⟨?_, ?_, ?_, ?_, ?_, List.forall_mem_nil _⟩ <;>
        exact newline_not_mem_ofList (by decide)
  cases e with
  | guidance =>
    simp only [lines, List.forall_mem_cons]
    refine ⟨?_, ?_, List.forall_mem_nil _⟩ <;> exact newline_not_mem_ofList (by decide)
  | single agent task mode =>
    have hagent := newline_not_mem_of_isNameText (h agent List.mem_cons_self)
    have hrun : '\n' ∉ (runLine agent task mode).toList := by
      cases mode <;> simp [runLine, hagent, newline_not_mem_quote]
    simp only [lines, List.forall_mem_append, List.forall_mem_cons]
    refine ⟨⟨hmain mode, ?_, ?_, hrun, ?_, List.forall_mem_nil _⟩, hclosing mode⟩ <;>
      exact newline_not_mem_ofList (by decide)
  | team agents task token =>
    have hteam : '\n' ∉ (teamLine agents).toList :=
      newline_not_mem_append (by decide) (newline_not_mem_append
        (newline_not_mem_append (by decide) (newline_not_mem_intercalate h)) (by decide))
    have htoken : '\n' ∉ (tokenLine token).toList := by simp [tokenLine, newline_not_mem_quote]
    have hstream : '\n' ∉ (streamLine task).toList := by simp [streamLine, newline_not_mem_quote]
    simp only [lines, List.forall_mem_append, List.forall_mem_cons]
    refine ⟨⟨hmain .async, ?_, ?_, ?_, htoken, ?_, ?_, ?_, hteam, ?_, ?_, ?_, ?_, hstream,
      List.forall_mem_nil _⟩, hclosing .async⟩ <;> exact newline_not_mem_ofList (by decide)

theorem declaration_eq (e : EntryPoint) : e.declaration = joinLines e.lines := by
  rw [declaration, render, Listing.text, lines_write_steps]

/-- The lines of the text of an entry point. -/
theorem lines_declaration {e : EntryPoint} (h : ∀ name ∈ e.agents, IsNameText name) :
    Text.lines e.declaration = e.lines := by
  have hlines : e.lines ≠ [] := by cases e <;> exact List.cons_ne_nil _ _
  rw [declaration_eq, Text.lines_joinLines_of_forall hlines (newline_not_mem_lines h)]

end EntryPoint

/-! ## Tools -/

/-- The function of a tool begins with its signature, behind which its body is written. -/
theorem Tool.declaration_eq (d : Defaults) (t : Tool) : t.declaration d =
    joinLines (t.signature d :: ((startAt 1).write (t.body ++ [.dedent])).lines) := by
  have hstart : (startAt 0).write [.line (t.signature d), .indent] = ⟨[t.signature d], 1⟩ := by
    change (⟨[atDepth 0 (t.signature d)], 1⟩ : Listing) = _
    rw [Listing.atDepth_zero]
  rw [declaration, render, Listing.text, List.append_assoc, Listing.write_append, hstart,
    Listing.lines_write]
  rfl

/-- The first line of a tool's function names it. -/
theorem Tool.exists_line_declaration (d : Defaults) (t : Tool) :
    ∃ rest, "def " ++ t.functionName d ++ "(" ++ rest ∈ Text.lines (t.declaration d) := by
  -- parameters may hold newlines, so the line is known up to the open bracket only
  have hfront : '\n' ∉ ("def " ++ t.functionName d ++ "(").toList :=
    newline_not_mem_append (newline_not_mem_append (by decide)
      (newline_not_mem_of_isNameText (t.isNameText_functionName d))) (by decide)
  obtain ⟨rest, hsignature⟩ :
      ∃ rest, t.signature d = "def " ++ t.functionName d ++ "(" ++ rest := by
    refine ⟨", ".intercalate (t.parameters.map Parameter.declaration) ++
      (") -> " ++ orElse t.returnType d.returnType ++ ":"), ?_⟩
    simp only [signature, String.append_assoc]
  obtain ⟨tail, htail⟩ := Text.exists_line_append hfront rest
  refine ⟨tail, ?_⟩
  rw [declaration_eq, Text.lines_joinLines (List.cons_ne_nil _ _), List.flatMap_cons, hsignature]
  exact List.mem_append_left _ htail

end AgentCanvas
