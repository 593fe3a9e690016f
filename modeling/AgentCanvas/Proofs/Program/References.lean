import AgentCanvas.Proofs.Program.Layout

/-!
# References in declarations

Which names the declarations of a program mention and which of them they bind. Apart from the names
of agents and tools they are always the same ones.

## Key definitions

- `Agent.references`: the names that the declaration of an agent refers to.
- `EntryPoint.locals`, `EntryPoint.scaffold`: the names that an entry point binds itself, and those
  that it refers to.

## Key results

- `mentionsOnly_clientLines`, `Agent.mentionsOnly_lines`, `EntryPoint.mentionsOnly_lines`: the names
  that declarations mention.
- `Agent.binds_headLine`, `EntryPoint.exists_binds_of_mem_locals`: the names that they bind.
-/

namespace AgentCanvas

open Text (Binds IsNameText MentionsOnly mentions mentions_ofList mentions_margin
  mentions_append_of_getLast? mentions_append_of_head? mentions_append_quote quote)

/-! ## Single lines -/

theorem mentionsOnly_ofList {names : List String} {cs : List Char}
    (h : ∀ name ∈ (Text.namesIn (Text.codeFrom .code cs)).map String.ofList,
      Text.isReserved name ∨ name ∈ Text.builtInNames ∨ name ∈ names) :
    MentionsOnly names (String.ofList cs) := by
  rwa [MentionsOnly, mentions_ofList]

theorem mentionsOnly_of_eq_nil {names : List String} {line : String} (h : mentions line = []) :
    MentionsOnly names line := by
  simp [MentionsOnly, h]

/-- A line that quotes a text mentions what stands in front of the text. -/
theorem mentionsOnly_quoting {names : List String} {front back : String} (hfront : Text.Plain front)
    (h : MentionsOnly names front) (hback : mentions back = []) (text : String) :
    MentionsOnly names (front ++ quote text ++ back) := by
  rw [MentionsOnly, mentions_append_quote hfront, hback, List.append_nil]
  exact h

/-! ## Model clients -/

theorem mentionsOnly_clientLines (d : Defaults) : ∀ line ∈ clientLines d,
    MentionsOnly ["get_model_client", "OpenAIChatCompletionClient"] line := by
  simp only [clientLines, List.forall_mem_cons]
  refine ⟨mentionsOnly_ofList (by decide), mentionsOnly_ofList (by decide), ?_,
    mentionsOnly_ofList (by decide), mentionsOnly_ofList (by decide), List.forall_mem_nil _⟩
  rw [MentionsOnly, mentions_margin rfl]
  exact mentionsOnly_quoting (by decide) (by decide) rfl d.model

theorem binds_clientLines (d : Defaults) : ∃ line ∈ clientLines d, Binds line "get_model_client" :=
  ⟨_, List.mem_cons_self, .function "" "get_model_client"
    ") -> OpenAIChatCompletionClient:" (by decide)⟩

/-! ## Imports -/

/-- What every program imports and refers to. -/
theorem exists_binds_baseImports : ∀ name ∈ ["asyncio", "AssistantAgent",
    "OpenAIChatCompletionClient"], ∃ line ∈ baseImports, Binds line name := by
  simp only [List.forall_mem_cons]
  exact ⟨⟨_, by simp [baseImports], .package "asyncio"⟩,
    ⟨_, by simp [baseImports], .member "autogen_agentchat.agents" "AssistantAgent"⟩,
    ⟨_, by simp [baseImports], .member "autogen_ext.models.openai" "OpenAIChatCompletionClient"⟩,
    List.forall_mem_nil _⟩

/-- What a team needs is imported with the other imports of teams. -/
theorem exists_binds_teamImports : ∀ name ∈ ["RoundRobinGroupChat", "TextMentionTermination",
    "Console"], ∃ line ∈ teamImports, Binds line name := by
  simp only [List.forall_mem_cons]
  exact ⟨⟨_, by simp [teamImports], .member "autogen_agentchat.teams" "RoundRobinGroupChat"⟩,
    ⟨_, by simp [teamImports], .member "autogen_agentchat.conditions" "TextMentionTermination"⟩,
    ⟨_, by simp [teamImports], .member "autogen_agentchat.ui" "Console"⟩, List.forall_mem_nil _⟩

/-! ## Agents -/

/-- The names that the declaration of an agent refers to. -/
def Agent.references (d : Defaults) (a : Agent) (toolNames : List String) : List String :=
  a.identifier d :: "AssistantAgent" :: "get_model_client" :: toolNames

/-- The first line of a declaration mentions the agent's variable and the class of agents. -/
theorem Agent.mentionsOnly_headLine {identifier : String} (h : IsNameText identifier) :
    MentionsOnly [identifier, "AssistantAgent"] (headLine identifier) := by
  have hrest : mentions " = AssistantAgent(" = ["AssistantAgent"] := rfl
  intro name hname
  rw [headLine, mentions_append_of_head? h.plain rfl (by decide), hrest, List.mem_append,
    List.mem_singleton] at hname
  rcases hname with hname | rfl
  · simp [Text.eq_of_mem_mentions h hname]
  · simp

/-- An argument that hands over a text mentions nothing. -/
theorem mentionsOnly_argument (parameter : String) (hplain : Text.Plain parameter)
    (hnone : mentions parameter = []) (text : String) :
    MentionsOnly [] ("    " ++ (parameter ++ quote text ++ ",")) := by
  rw [MentionsOnly, mentions_margin rfl]
  exact mentionsOnly_quoting hplain (mentionsOnly_of_eq_nil hnone) rfl text

/-- The line that names tools mentions these only. -/
theorem mentionsOnly_toolsLines {names : List String} (h : ∀ name ∈ names, IsNameText name) :
    ∀ line ∈ toolsLines names, MentionsOnly names line := by
  refine forall_mem_toolsLines fun name hname => ?_
  rw [mentions_margin rfl] at hname
  exact .inr (.inr (Text.mem_of_mem_mentions_brackets h (by decide) rfl rfl hname))

/-- An agent refers to its own variable, to what every agent needs and to its tools. -/
theorem Agent.mentionsOnly_lines (d : Defaults) (a : Agent) {toolNames : List String}
    (h : ∀ name ∈ toolNames, IsNameText name) :
    ∀ line ∈ a.lines d toolNames, MentionsOnly (a.references d toolNames) line := by
  have hhead := mentionsOnly_headLine (a.isNameText_identifier d)
  have hname := mentionsOnly_argument "name=" (by decide) rfl (a.displayName d)
  have hclient : MentionsOnly ["get_model_client"] "    model_client=get_model_client()," :=
    mentionsOnly_ofList (by decide)
  have hdescription : ∀ line ∈ textLines "description" a.description, MentionsOnly [] line :=
    forall_mem_textLines (mentionsOnly_argument _ (by decide) rfl _)
  have hsystem : ∀ line ∈ textLines "system_message" a.systemMessage, MentionsOnly [] line :=
    forall_mem_textLines (mentionsOnly_argument _ (by decide) rfl _)
  have htools := mentionsOnly_toolsLines h
  have hend : MentionsOnly [] ")" := mentionsOnly_of_eq_nil rfl
  simp only [lines, List.forall_mem_append, List.forall_mem_cons]
  exact ⟨⟨⟨⟨⟨hhead.mono (by simp [references]), hname.mono (by simp),
    hclient.mono (by simp [references]), List.forall_mem_nil _⟩,
    fun line hline => (hdescription line hline).mono (by simp)⟩,
    fun line hline => (hsystem line hline).mono (by simp)⟩,
    fun line hline => (htools line hline).mono fun name hname => by simp [references, hname]⟩,
    hend.mono (by simp), List.forall_mem_nil _⟩

/-- The declaration of an agent binds the agent's variable. -/
theorem Agent.binds_headLine (identifier : String) : Binds (headLine identifier) identifier := by
  have hline : headLine identifier = "" ++ identifier ++ " = " ++ "AssistantAgent(" := by
    rw [String.empty_append, String.append_assoc]
    rfl
  rw [hline]
  exact .variable "" identifier _ rfl

/-! ## Entry points -/

namespace EntryPoint

/-- The names that an entry point binds itself. -/
def locals : EntryPoint → List String
  | guidance => []
  | single .. => ["main", "model_client", "result"]
  | team .. => ["main", "model_client", "termination", "team"]

/-- The names that an entry point refers to besides its agents. -/
def scaffold : EntryPoint → List String
  | guidance => []
  | single agent task mode => "asyncio" :: "get_model_client" :: (single agent task mode).locals
  | team agents task token => "asyncio" :: "get_model_client" :: "RoundRobinGroupChat" ::
      "TextMentionTermination" :: "Console" :: (team agents task token).locals

theorem mentionsOnly_mainLine (mode : ExecutionMode) : MentionsOnly ["main"] (mainLine mode) := by
  cases mode <;> exact mentionsOnly_ofList (by decide)

theorem mentionsOnly_clientLine : MentionsOnly ["model_client", "get_model_client"]
    "    model_client = get_model_client()" :=
  mentionsOnly_ofList (by decide)

theorem mentionsOnly_tryLine : MentionsOnly [] "    try:" :=
  mentionsOnly_ofList (by decide)

theorem mentionsOnly_closingLines (mode : ExecutionMode) :
    ∀ line ∈ closingLines mode, MentionsOnly ["asyncio", "main", "model_client"] line := by
  cases mode <;> simp only [closingLines, List.forall_mem_cons] <;>
    refine ⟨?_, ?_, ?_, ?_, ?_, List.forall_mem_nil _⟩ <;> exact mentionsOnly_ofList (by decide)

/-- A call of a method of an agent mentions the agent, behind what stands in front of it. -/
theorem mentionsOnly_call {names : List String} {front agent method : String}
    (hagent : IsNameText agent) (hfront : Text.Plain front)
    (hlast : front.toList.getLast? = some ' ') (h : MentionsOnly names front)
    (hmethod : Text.isAttributeText method) :
    MentionsOnly (agent :: names) (front ++ agent ++ (method ++ "(task=")) := by
  have hplain := hagent.plain.append (Text.plain_of_isAttributeText hmethod)
  have hopen : mentions "(task=" = [] := rfl
  intro name hname
  -- the agent and its method are one word, between the blank in front of it and the bracket
  rw [String.append_assoc, mentions_append_of_getLast? hfront hlast (by decide),
    ← String.append_assoc, mentions_append_of_head? hplain rfl (by decide), hopen, List.append_nil,
    List.mem_append] at hname
  rcases hname with hname | hname
  · exact (h name hname).imp_right (Or.imp_right (List.mem_cons_of_mem _))
  · simp [Text.eq_of_mem_mentions_append hagent hmethod hname]

/-- The line that runs a single agent refers to the agent. -/
theorem mentionsOnly_runLine {agent : String} (h : IsNameText agent) (task : String)
    (mode : ExecutionMode) : MentionsOnly [agent, "result"] (runLine agent task mode) := by
  have hplain {front rest : String} (hfront : Text.Plain front) (hrest : Text.Plain rest) :
      Text.Plain (front ++ agent ++ rest) := (hfront.append h.plain).append hrest
  have hsync : Text.isAttributeText ".run_sync" := rfl
  have hasync : Text.isAttributeText ".run" := rfl
  cases mode with
  | sync =>
    rw [runLine, MentionsOnly, mentions_margin rfl]
    exact mentionsOnly_quoting (hplain (by decide) (by decide))
      (mentionsOnly_call h (by decide) rfl (by decide) hsync) rfl task
  | async =>
    rw [runLine, MentionsOnly, mentions_margin rfl]
    exact mentionsOnly_quoting (hplain (by decide) (by decide))
      (mentionsOnly_call h (by decide) rfl (by decide) hasync) rfl task

/-- The line that lists the agents of a team refers to these. -/
theorem mentionsOnly_teamLine {agents : List String} (h : ∀ name ∈ agents, IsNameText name) :
    MentionsOnly agents (teamLine agents) := by
  intro name hname
  rw [teamLine, mentions_margin rfl] at hname
  exact .inr (.inr (Text.mem_of_mem_mentions_brackets h (by decide) rfl rfl hname))

theorem mentionsOnly_tokenLine (token : String) :
    MentionsOnly ["termination", "TextMentionTermination"] (tokenLine token) := by
  rw [tokenLine, MentionsOnly, mentions_margin rfl]
  exact mentionsOnly_quoting (by decide) (mentionsOnly_ofList (by decide)) rfl token

theorem mentionsOnly_streamLine (task : String) :
    MentionsOnly ["Console", "team"] (streamLine task) := by
  rw [streamLine, MentionsOnly, mentions_margin rfl]
  exact mentionsOnly_quoting (by decide) (mentionsOnly_ofList (by decide)) rfl task

/-- An entry point refers to its agents and to its scaffold. -/
theorem mentionsOnly_lines {e : EntryPoint} (h : ∀ name ∈ e.agents, IsNameText name) :
    ∀ line ∈ e.lines, MentionsOnly (e.scaffold ++ e.agents) line := by
  cases e with
  | guidance =>
    simp only [lines, List.forall_mem_cons]
    exact ⟨mentionsOnly_ofList (by decide), mentionsOnly_ofList (by decide), List.forall_mem_nil _⟩
  | single agent task mode =>
    have hclosing : ∀ line ∈ closingLines mode,
        MentionsOnly ((single agent task mode).scaffold ++ [agent]) line := fun line hline =>
      (mentionsOnly_closingLines mode line hline).mono (by simp [scaffold, locals])
    have hrun := mentionsOnly_runLine (h agent List.mem_cons_self) task mode
    have hprint : MentionsOnly ["result"] "        print(result)" :=
      mentionsOnly_ofList (by decide)
    simp only [lines, agents, List.forall_mem_append, List.forall_mem_cons]
    exact ⟨⟨(mentionsOnly_mainLine mode).mono (by simp [scaffold, locals]),
      mentionsOnly_clientLine.mono (by simp [scaffold, locals]),
      mentionsOnly_tryLine.mono (by simp), hrun.mono (by simp [scaffold, locals]),
      hprint.mono (by simp [scaffold, locals]), List.forall_mem_nil _⟩, hclosing⟩
  | team agents task token =>
    have hclosing : ∀ line ∈ closingLines .async,
        MentionsOnly ((team agents task token).scaffold ++ agents) line := fun line hline =>
      (mentionsOnly_closingLines .async line hline).mono (by simp [scaffold, locals])
    have hstop : MentionsOnly [] "    # Stop once any agent mentions the termination token" :=
      mentionsOnly_ofList (by decide)
    have hturns : MentionsOnly [] "    # Agents take turns in node order" :=
      mentionsOnly_ofList (by decide)
    have hteam : MentionsOnly ["team", "RoundRobinGroupChat"]
      "    team = RoundRobinGroupChat(" := mentionsOnly_ofList (by decide)
    have hcondition : MentionsOnly ["termination"]
      "        termination_condition=termination" := mentionsOnly_ofList (by decide)
    have hblank : MentionsOnly [] "" := mentionsOnly_ofList (by decide)
    have hclose : MentionsOnly [] "    )" := mentionsOnly_ofList (by decide)
    have htoken := mentionsOnly_tokenLine token
    have hagents := mentionsOnly_teamLine h
    have hstream := mentionsOnly_streamLine task
    simp only [lines, List.forall_mem_append, List.forall_mem_cons]
    exact ⟨⟨(mentionsOnly_mainLine .async).mono (by simp [scaffold, locals]),
      mentionsOnly_clientLine.mono (by simp [scaffold, locals]), hblank.mono (by simp),
      hstop.mono (by simp), htoken.mono (by simp [scaffold, locals]), hblank.mono (by simp),
      hturns.mono (by simp), hteam.mono (by simp [scaffold, locals]),
      hagents.mono (by simp [EntryPoint.agents]), hcondition.mono (by simp [scaffold, locals]),
      hclose.mono (by simp), hblank.mono (by simp), mentionsOnly_tryLine.mono (by simp),
      hstream.mono (by simp [scaffold, locals]), List.forall_mem_nil _⟩, hclosing⟩

theorem binds_runLine (agent task : String) (mode : ExecutionMode) :
    Binds (runLine agent task mode) "result" := by
  obtain ⟨value, hline⟩ : ∃ value, runLine agent task mode =
      "        " ++ "result" ++ " = " ++ value := by
    cases mode with
    | sync =>
      refine ⟨agent ++ ".run_sync(task=" ++ quote task ++ ")", ?_⟩
      simp only [runLine, ← String.append_assoc]
      rfl
    | async =>
      refine ⟨"await " ++ agent ++ ".run(task=" ++ quote task ++ ")", ?_⟩
      simp only [runLine, ← String.append_assoc]
      rfl
  rw [hline]
  exact .variable "        " "result" value rfl

theorem binds_tokenLine (token : String) : Binds (tokenLine token) "termination" := by
  have hline : tokenLine token = "    " ++ "termination" ++ " = " ++
      ("TextMentionTermination(" ++ quote token ++ ")") := by
    simp only [tokenLine, ← String.append_assoc]
    rfl
  rw [hline]
  exact .variable "    " "termination" _ rfl

/-- An entry point binds its local names. -/
theorem exists_binds_of_mem_locals {e : EntryPoint} {name : String} (h : name ∈ e.locals) :
    ∃ line ∈ e.lines, Binds line name := by
  have hmain (mode : ExecutionMode) : Binds (mainLine mode) "main" := by
    cases mode with
    | sync => exact .function "" "main" ") -> None:" (by decide)
    | async => exact .function "async " "main" ") -> None:" (by decide)
  have hclient : Binds "    model_client = get_model_client()" "model_client" :=
    .variable "    " "model_client" "get_model_client()" rfl
  cases e with
  | guidance => cases h
  | single agent task mode =>
    simp only [locals, List.mem_cons, List.not_mem_nil, or_false] at h
    rcases h with rfl | rfl | rfl
    · exact ⟨_, by simp [lines], hmain mode⟩
    · exact ⟨_, by simp [lines], hclient⟩
    · exact ⟨_, by simp [lines], binds_runLine agent task mode⟩
  | team agents task token =>
    have hteam : Binds "    team = RoundRobinGroupChat(" "team" :=
      .variable "    " "team" "RoundRobinGroupChat(" rfl
    simp only [locals, List.mem_cons, List.not_mem_nil, or_false] at h
    rcases h with rfl | rfl | rfl | rfl
    · exact ⟨_, by simp [lines], hmain .async⟩
    · exact ⟨_, by simp [lines], hclient⟩
    · exact ⟨_, by simp [lines], binds_tokenLine token⟩
    · exact ⟨_, by simp [lines], hteam⟩

end EntryPoint

end AgentCanvas
