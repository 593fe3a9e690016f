import AgentCanvas.Proofs.Program.Closed
import AgentCanvas.Proofs.Text.Binding

/-!
# Names of agents and names of the scaffolding

Around the agents a program binds some names of its own: what it imports, the factory of model
clients, and what its entry point is made of. Nothing keeps the variable of an agent apart from
them. It is one of them exactly if the slug of the agent's display name is, so all other agents keep
their variables.

## Key definitions

- `BindsOnly`: lines that bind only given names, as far as variables of agents can tell.
- `Blueprint.scaffolding`: the lines that a program puts around its agents.
- `scaffoldNames`: the names that these lines bind.

## Key results

- `bindsOnly_importLines`, `bindsOnly_clientLines`, `EntryPoint.bindsOnly_lines`: what the lines of
  each part bind.
- `Blueprint.exists_binds_scaffolding_iff`: the scaffolding binds exactly these names.
- `Workflow.exists_binds_identifier_iff`: which agents lose their variables.
-/

namespace AgentCanvas

open Text (Binds boundNames quote)

/-- Of the names that variables of agents can have, a line binds only the given ones. -/
def BindsOnly (names : List String) (line : String) : Prop :=
  ∀ name ∈ boundNames line.toList, isSlug name → String.ofList name ∈ names

namespace BindsOnly

variable {names others : List String} {line name : String}

theorem mono (h : BindsOnly names line) (hsub : names ⊆ others) : BindsOnly others line :=
  fun name hname hslug => hsub (h name hname hslug)

theorem mem (h : BindsOnly names line) (hbinds : Binds line name) (hname : isSlug name.toList) :
    name ∈ names := by
  rw [← String.ofList_toList (s := name)]
  exact h _ (hbinds.mem_boundNames (isNameText_of_isSlug hname) (isBlank_of_isSlug hname)) hname

theorem of_ofList {cs : List Char}
    (h : ∀ name ∈ boundNames cs, isSlug name → String.ofList name ∈ names) :
    BindsOnly names (String.ofList cs) := by
  rwa [BindsOnly, String.toList_ofList]

/-- A line whose bound name is known. -/
theorem of_eq {cs : List Char} (h : boundNames line.toList = [cs]) :
    BindsOnly [String.ofList cs] line := by
  intro name hname _
  rw [h, List.mem_singleton] at hname
  rw [hname]
  exact List.mem_singleton_self _

/-- A line that binds nothing. -/
theorem of_eq_nil (h : boundNames line.toList = []) : BindsOnly names line := by
  simp [BindsOnly, h]

end BindsOnly

/-! ## Imports and model clients -/

/-- The other names that are imported are those of classes. -/
theorem bindsOnly_importLines :
    ∀ line ∈ baseImports ++ toolImports ++ teamImports, BindsOnly ["asyncio"] line := by
  simp only [baseImports, toolImports, teamImports, List.forall_mem_append, List.forall_mem_cons]
  refine ⟨⟨⟨?_, ?_, ?_, List.forall_mem_nil _⟩, ?_, ?_, List.forall_mem_nil _⟩, ?_, ?_, ?_,
    List.forall_mem_nil _⟩ <;> exact .of_ofList (by decide)

theorem bindsOnly_clientLines (d : Defaults) :
    ∀ line ∈ clientLines d, BindsOnly ["get_model_client"] line := by
  simp only [clientLines, List.forall_mem_cons]
  -- only the third line depends on the defaults
  refine ⟨.of_ofList (by decide), .of_ofList (by decide), .of_eq_nil ?_, .of_ofList (by decide),
    .of_ofList (by decide), List.forall_mem_nil _⟩
  simp only [String.toList_append, Text.toList_quote]
  rfl

/-! ## Entry points -/

namespace EntryPoint

theorem bindsOnly_mainLine (mode : ExecutionMode) : BindsOnly ["main"] (mainLine mode) := by
  cases mode <;> exact .of_ofList (by decide)

theorem bindsOnly_closingLines (mode : ExecutionMode) :
    ∀ line ∈ closingLines mode, BindsOnly [] line := by
  cases mode <;> simp only [closingLines, List.forall_mem_cons] <;>
    refine ⟨?_, ?_, ?_, ?_, ?_, List.forall_mem_nil _⟩ <;> exact .of_ofList (by decide)

/-- Whatever an agent is called, the line that runs it binds the result only. -/
theorem bindsOnly_runLine (agent task : String) (mode : ExecutionMode) :
    BindsOnly ["result"] (runLine agent task mode) := by
  apply BindsOnly.of_eq
  -- the name is read off in front of the agent, so both forms compute for an unknown agent
  cases mode with
  | sync =>
    simp only [runLine, String.toList_append, List.append_assoc]
    rfl
  | async =>
    simp only [runLine, String.toList_append, List.append_assoc]
    rfl

theorem bindsOnly_tokenLine (token : String) : BindsOnly ["termination"] (tokenLine token) := by
  apply BindsOnly.of_eq
  simp only [tokenLine, String.toList_append, List.append_assoc]
  rfl

theorem bindsOnly_teamLine (agents : List String) : BindsOnly [] (teamLine agents) := by
  apply BindsOnly.of_eq_nil
  simp only [teamLine, String.toList_append, List.append_assoc]
  rfl

theorem bindsOnly_streamLine (task : String) : BindsOnly [] (streamLine task) := by
  apply BindsOnly.of_eq_nil
  simp only [streamLine, String.toList_append, List.append_assoc]
  rfl

/-- An entry point binds its local names only. -/
theorem bindsOnly_lines (e : EntryPoint) : ∀ line ∈ e.lines, BindsOnly e.locals line := by
  have hclient : BindsOnly ["model_client"] "    model_client = get_model_client()" :=
    .of_ofList (by decide)
  have htry : BindsOnly [] "    try:" := .of_ofList (by decide)
  cases e with
  | guidance =>
    simp only [lines, List.forall_mem_cons]
    exact ⟨.of_ofList (by decide), .of_ofList (by decide), List.forall_mem_nil _⟩
  | single agent task mode =>
    have hprint : BindsOnly [] "        print(result)" := .of_ofList (by decide)
    simp only [lines, List.forall_mem_append, List.forall_mem_cons]
    exact ⟨⟨(bindsOnly_mainLine mode).mono (by simp [locals]), hclient.mono (by simp [locals]),
      htry.mono (by simp), (bindsOnly_runLine agent task mode).mono (by simp [locals]),
      hprint.mono (by simp), List.forall_mem_nil _⟩,
      fun line hline => (bindsOnly_closingLines mode line hline).mono (by simp)⟩
  | team agents task token =>
    have hblank : BindsOnly [] "" := .of_ofList (by decide)
    have hstop : BindsOnly [] "    # Stop once any agent mentions the termination token" :=
      .of_ofList (by decide)
    have hturns : BindsOnly [] "    # Agents take turns in node order" := .of_ofList (by decide)
    have hteam : BindsOnly ["team"] "    team = RoundRobinGroupChat(" := .of_ofList (by decide)
    have hcondition : BindsOnly [] "        termination_condition=termination" :=
      .of_ofList (by decide)
    have hclose : BindsOnly [] "    )" := .of_ofList (by decide)
    simp only [lines, List.forall_mem_append, List.forall_mem_cons]
    exact ⟨⟨(bindsOnly_mainLine .async).mono (by simp [locals]), hclient.mono (by simp [locals]),
      hblank.mono (by simp), hstop.mono (by simp),
      (bindsOnly_tokenLine token).mono (by simp [locals]), hblank.mono (by simp),
      hturns.mono (by simp), hteam.mono (by simp [locals]),
      (bindsOnly_teamLine agents).mono (by simp), hcondition.mono (by simp), hclose.mono (by simp),
      hblank.mono (by simp), htry.mono (by simp), (bindsOnly_streamLine task).mono (by simp),
      List.forall_mem_nil _⟩,
      fun line hline => (bindsOnly_closingLines .async line hline).mono (by simp)⟩

end EntryPoint

/-! ## The scaffolding -/

/-- The names that a program with so many agents binds itself, besides those of classes. -/
def scaffoldNames (agents : Nat) : List String :=
  ["asyncio", "get_model_client", "main", "model_client"] ++
    if agents = 1 then ["result"] else ["termination", "team"]

namespace Blueprint

variable {b : Blueprint} {d : Defaults} {name : String}

/-- The lines that a program puts around its agents and around what is copied into it: the imports,
that of schemas among them, the factory of model clients and the entry point. -/
def scaffolding (b : Blueprint) (d : Defaults) : List String :=
  (b.linesOf d .schemas).take 1 ++ [Part.imports, .client, .entryPoint].flatMap (b.linesOf d)

/-- What schemas need is imported in front of them, and it is a class too. -/
theorem bindsOnly_schemasLine (b : Blueprint) (d : Defaults) :
    ∀ line ∈ (b.linesOf d .schemas).take 1, BindsOnly [] line := by
  rw [linesOf, part, schemasPart]
  split
  next => exact List.forall_mem_singleton.mpr (.of_ofList (by decide))
  next =>
    -- the first of the schemas stands behind a blank line
    have hsplit (rest : String) : "from pydantic import BaseModel\n\n" ++ rest =
        "from pydantic import BaseModel" ++ "\n" ++ ("\n" ++ rest) := by
      rw [← String.append_assoc]
      rfl
    rw [hsplit, Text.lines_append_newline]
    exact List.forall_mem_singleton.mpr (.of_ofList (by decide))

/-- The names that the scaffolding binds, as far as variables of agents can tell. -/
theorem mem_of_binds_scaffolding (hname : isSlug name.toList) (hagents : b.agents ≠ [])
    {line : String} (hline : line ∈ b.scaffolding d) (h : Binds line name) :
    name ∈ "asyncio" :: "get_model_client" :: (b.entry d).locals := by
  simp only [scaffolding, List.flatMap_cons, List.flatMap_nil, List.append_nil,
    List.mem_append] at hline
  rcases hline with hline | hline | hline | hline
  · exact (BindsOnly.mono (b.bindsOnly_schemasLine d line hline) (by simp)).mem h hname
  · have himport := b.linesOf_imports_subset d hline
    exact (BindsOnly.mono (bindsOnly_importLines line himport) (by simp)).mem h hname
  · rw [linesOf_client hagents] at hline
    exact (BindsOnly.mono (bindsOnly_clientLines d line hline) (by simp)).mem h hname
  · rw [linesOf_entryPoint] at hline
    exact (BindsOnly.mono (EntryPoint.bindsOnly_lines _ line hline) (by simp)).mem h hname

/-- Around agents that are run, the names of the scaffolding are those of its form. -/
theorem scaffoldNames_eq (hagents : b.agents ≠ []) (hrunners : b.runners ≠ []) :
    scaffoldNames b.agents.length = "asyncio" :: "get_model_client" :: (b.entry d).locals ∧
      scaffoldNames b.agents.length ⊆ (b.entry d).scaffold := by
  rcases entry_cases_of_ne_nil (d := d) hagents hrunners with
    ⟨identifier, task, mode, hidentifiers, hentry⟩ | ⟨task, token, hcount, hentry⟩
  · have hcount : b.agents.length = 1 := by
      rw [← List.length_map (f := (·.value.identifier d))]
      exact congrArg List.length hidentifiers
    rw [hentry, hcount]
    exact ⟨rfl, List.Subset.refl _⟩
  · rw [hentry, scaffoldNames, if_neg (by omega)]
    exact ⟨rfl, by simp [EntryPoint.scaffold, EntryPoint.locals]⟩

/-- Around agents that are run, the scaffolding binds these names. -/
theorem exists_binds_scaffolding_iff (hname : isSlug name.toList) (hagents : b.agents ≠ [])
    (hrunners : b.runners ≠ []) : (∃ line ∈ b.scaffolding d, Binds line name) ↔
      name ∈ scaffoldNames b.agents.length := by
  obtain ⟨hnames, hsub⟩ := scaffoldNames_eq (d := d) hagents hrunners
  constructor
  · rintro ⟨line, hline, h⟩
    rw [hnames]
    exact mem_of_binds_scaffolding hname hagents hline h
  · intro h
    have hbound : ∃ line ∈ [Part.imports, .client, .entryPoint].flatMap (b.linesOf d),
        Binds line name := exists_binds_scaffold (by simp) (by simp) (by simp) (hsub h)
    obtain ⟨line, hline, hbinds⟩ := hbound
    exact ⟨line, List.mem_append_right _ hline, hbinds⟩

end Blueprint

/-- A name of the scaffolding is made from no other slug than itself. -/
theorem nameOfSlug_mem_scaffoldNames_iff {s : String} {agents : Nat} :
    nameOfSlug s ∈ scaffoldNames agents ↔ s ∈ scaffoldNames agents := by
  -- no underscore had to be put to any of the names
  have hplain : ∀ name ∈ scaffoldNames agents, nameOfSlug s = name ↔ s = name := by
    have hall : ∀ name ∈ ["asyncio", "get_model_client", "main", "model_client", "result",
        "termination", "team"], Text.isReserved name = false ∧
          (name.toList.head?.all fun c => !c.isDigit && c != '_') ∧
          name.toList.getLast? ≠ some '_' := by
      decide
    have hsub : scaffoldNames agents ⊆ ["asyncio", "get_model_client", "main", "model_client",
        "result", "termination", "team"] := by
      unfold scaffoldNames
      split <;> simp
    intro name hname
    obtain ⟨hreserved, hfirst, hlast⟩ := hall name (hsub hname)
    exact nameOfSlug_eq_iff hreserved hfirst hlast
  constructor
  · intro h
    have heq : s = nameOfSlug s := (hplain _ h).mp rfl
    rwa [← heq] at h
  · intro h
    rwa [(hplain s h).mpr rfl]

namespace Workflow

/-- The entry point runs all agents of a loaded workflow with a runner, in node order, each of them
by its variable. A line of the scaffolding binds such a variable exactly if the slug of the agent's
display name is itself a name of the scaffolding, as it is for this number of agents; the variables
of all other agents are bound by no line of it. -/
theorem exists_binds_identifier_iff (d : Defaults) {document : Json} {draws : Draws}
    {w : Workflow} (hload : ofDocument document draws = .ok w)
    (hagent : ∃ node ∈ w.nodes, node.kind = .agent)
    (hrunner : ∃ node ∈ w.nodes, node.kind = .runner) :
    ∃ b g, w.blueprint = .ok b ∧ w.generate d = .ok g ∧
      g.code = joinParts ((b.presentParts d).map (b.part d)) ∧
      [.imports, .client, .entryPoint] ⊆ b.presentParts d ∧
      b.linesOf d .entryPoint = (b.entry d).lines ∧
      List.Forall₂ (fun node name => ∃ a, node.attributes = .ok (.agent a) ∧
        name = a.identifier d ∧ ((∃ line ∈ b.scaffolding d, Binds line name) ↔
          slug (a.displayName d) ∈ scaffoldNames (w.nodesOfKind .agent).length))
        (w.nodesOfKind .agent) (b.entry d).agents := by
  obtain ⟨g, hg⟩ := exists_generate_eq_ok_iff (d := d).mpr (sound_of_ofDocument hload).readable
  obtain ⟨_, b, -, hb, rfl⟩ := generate_eq_ok_iff.mp hg
  have hagents : b.agents ≠ [] := (agents_ne_nil_iff hb).mpr hagent
  have hrunners : b.runners ≠ [] := by
    obtain ⟨runner, hmem, hkind⟩ := hrunner
    exact runners_ne_nil hb hagents (List.ne_nil_of_mem (mem_nodesOfKind.mpr ⟨hmem, hkind⟩))
  have hpresent : [.imports, .client, .entryPoint] ⊆ b.presentParts d := by
    simp [b.mem_presentParts_imports d, b.mem_presentParts_entryPoint d,
      Blueprint.mem_presentParts_client_iff.mpr hagents]
  refine ⟨b, _, hb, hg, b.code_eq_joinParts d, hpresent, b.linesOf_entryPoint d, ?_⟩
  rw [Blueprint.agents_entry_eq hagents hrunners, Blueprint.identifiers,
    List.forall₂_map_right_iff, (forall₂_agents hb).length_eq]
  refine (forall₂_agents hb).imp fun node agent hread => ⟨agent.value, hread.2, rfl, ?_⟩
  rw [Blueprint.exists_binds_scaffolding_iff (agent.value.isSlug_identifier d) hagents hrunners]
  exact nameOfSlug_mem_scaffoldNames_iff

/-- The document of a runner and agents of the given names, which feed it. -/
def castDocument (names : List String) : Json :=
  .obj [("nodes", .arr (.obj [("id", .str "runner"), ("type", .str "runner")] ::
      names.map fun name => .obj [("id", .str name), ("type", .str "agent"),
        ("data", .obj [("name", .str name)])])),
    ("edges", .arr (names.map fun name => .obj [("id", .str name), ("source", .str name),
      ("target", .str "runner")]))]

/-- Of two agents that take turns, the one named Team has the name of the variable that holds the
team, and the other one keeps its variable. -/
theorem exists_binds_identifier_iff_cast :
    ∃ w b, ofDocument (castDocument ["Team", "Ann"]) = .ok w ∧ w.blueprint = .ok b ∧
      (b.entry .builtIn).agents = ["team", "ann"] ∧
      (∃ line ∈ b.scaffolding .builtIn, Binds line "team") ∧
      ¬∃ line ∈ b.scaffolding .builtIn, Binds line "ann" := by
  let member (name : String) : Node :=
    ⟨name, .agent, ⟨.zero, .zero⟩, .obj [("name", .str name)]⟩
  let w : Workflow := ⟨[⟨"runner", .runner, ⟨.zero, .zero⟩, .obj []⟩, member "Team", member "Ann"],
    [⟨"Team", "Team", "runner"⟩, ⟨"Ann", "Ann", "runner"⟩]⟩
  have hload : ofDocument (castDocument ["Team", "Ann"]) = .ok w := rfl
  have hmembers : w.nodesOfKind .agent = [member "Team", member "Ann"] := rfl
  have hattributes (name : String) :
      (member name).attributes = .ok (.agent ⟨name, "", "", .text, none⟩) := rfl
  obtain ⟨b, _, hb, -, -, -, -, hagents⟩ :=
    exists_binds_identifier_iff .builtIn hload (by decide) (by decide)
  rw [hmembers] at hagents
  generalize hrun : (b.entry .builtIn).agents = names at hagents
  obtain - | ⟨⟨a, ha, hteam, hteamBinds⟩, - | ⟨⟨c, hc, hann, hannBinds⟩, ⟨⟩⟩⟩ := hagents
  cases (hattributes "Team").symm.trans ha
  cases (hattributes "Ann").symm.trans hc
  have hteamName : Agent.identifier .builtIn ⟨"Team", "", "", .text, none⟩ = "team" := rfl
  have hannName : Agent.identifier .builtIn ⟨"Ann", "", "", .text, none⟩ = "ann" := rfl
  rw [hteamName] at hteam
  rw [hannName] at hann
  subst hteam hann
  exact ⟨w, b, hload, hb, hrun, hteamBinds.mpr (by decide),
    fun h => absurd (hannBinds.mp h) (by decide)⟩

/-- No line of the scaffolding binds the variable of an agent. -/
def Unshadowed (w : Workflow) (d : Defaults) : Prop :=
  ∀ b, w.blueprint = .ok b → ∀ agent ∈ b.agents, ∀ line ∈ b.scaffolding d,
    ¬Binds line (agent.value.identifier d)

/-- An agent may have the name of the function that runs it. -/
theorem not_unshadowed_main : ∃ w, ofDocument (castDocument ["Main"]) = .ok w ∧
    (∃ node ∈ w.nodes, node.kind = .agent) ∧ (∃ node ∈ w.nodes, node.kind = .runner) ∧
    ¬w.Unshadowed .builtIn := by
  let w : Workflow := ⟨[⟨"runner", .runner, ⟨.zero, .zero⟩, .obj []⟩,
    ⟨"Main", .agent, ⟨.zero, .zero⟩, .obj [("name", .str "Main")]⟩], [⟨"Main", "Main", "runner"⟩]⟩
  obtain ⟨b, hb, hrunners, agent, hagent, hidentifier⟩ : ∃ b, w.blueprint = .ok b ∧
      b.runners ≠ [] ∧ ∃ agent ∈ b.agents, agent.value.identifier .builtIn = "main" :=
    ⟨_, rfl, List.cons_ne_nil _ _, _, List.mem_cons_self, rfl⟩
  refine ⟨w, rfl, by decide, by decide, fun h => ?_⟩
  have hcount : "main" ∈ scaffoldNames b.agents.length := by
    simp [scaffoldNames]
  obtain ⟨line, hline, hbinds⟩ := (Blueprint.exists_binds_scaffolding_iff (d := .builtIn)
    (by decide) (List.ne_nil_of_mem hagent) hrunners).mpr hcount
  rw [← hidentifier] at hbinds
  exact h b hb agent hagent line hline hbinds

end Workflow

end AgentCanvas
