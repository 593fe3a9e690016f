import AgentCanvas.Proofs.Program.References
import AgentCanvas.Proofs.Program.Tools

/-!
# Programs without loose ends

Nothing that a program refers to is missing: every agent is declared once and the entry point runs
exactly the declared agents, every tool of an agent is a function of the program, the factory of
model clients is there when it is called and what a team needs is imported. What a part refers to is
bound in the parts in front of it or in the part itself. The texts that are copied into a program as
they are, schemas and the functions of tools, may of course refer to anything.

## Key definitions

- `IsHeadLine`: the lines that declare an agent.
- `Workflow.SelfContained`: nothing that the program of a workflow refers to is missing.

## Key results

- `Blueprint.filter_isHeadLine`, `Blueprint.filter_isToolsLine`: the lines that declare agents and
  name their tools.
- `Blueprint.entry_of_single`, `Blueprint.entry_of_team`: the agents that the entry point runs.
- `Blueprint.resolved_linesOf`: names are bound before they are used.
- `Workflow.generate_selfContained`: programs are self-contained.
-/

namespace AgentCanvas

open Text (IsNameText Binds Resolved mentions)

/-! ## Agents -/

/-- A line declares an agent. -/
def IsHeadLine (line : String) : Prop :=
  " = AssistantAgent(".toList <:+ line.toList

instance (line : String) : Decidable (IsHeadLine line) :=
  inferInstanceAs (Decidable (" = AssistantAgent(".toList <:+ line.toList))

theorem isHeadLine_headLine (identifier : String) : IsHeadLine (Agent.headLine identifier) := by
  rw [IsHeadLine, Agent.headLine, String.toList_append]
  exact List.suffix_append _ _

/-- A line that declares an agent ends with an open bracket. -/
theorem not_isHeadLine_append {s t : String} {c : Char} (hlast : t.toList.getLast? = some c)
    (hc : c ≠ '(') : ¬IsHeadLine (s ++ t) := by
  rintro ⟨front, hfront⟩
  have hlist := congrArg List.getLast? hfront
  rw [String.toList_append, List.getLast?_append, List.getLast?_append, hlast] at hlist
  simp at hlist
  exact hc hlist.symm

/-- Of the lines of a declaration, only the first one declares the agent. -/
theorem Agent.filter_isHeadLine (d : Defaults) (a : Agent) (toolNames : List String) :
    (a.lines d toolNames).filter IsHeadLine = [headLine (a.identifier d)] := by
  have hargument (argument : String) : ¬IsHeadLine ("    " ++ (argument ++ ",")) := by
    rw [← String.append_assoc]
    exact not_isHeadLine_append rfl (by decide)
  have htext (name text : String) : (textLines name text).filter IsHeadLine = [] := by
    rw [List.filter_eq_nil_iff]
    exact forall_mem_textLines (by simpa using hargument _)
  have htools : (toolsLines toolNames).filter IsHeadLine = [] := by
    have hlist (list : String) : ¬IsHeadLine ("    " ++ (list ++ "],")) := by
      rw [← String.append_assoc]
      exact not_isHeadLine_append rfl (by decide)
    rw [List.filter_eq_nil_iff]
    exact forall_mem_toolsLines (by simpa using hlist _)
  have hclient : ¬IsHeadLine "    model_client=get_model_client()," := by decide
  have hend : ¬IsHeadLine ")" := by decide
  simp [lines, isHeadLine_headLine, hargument, hclient, htext, htools, hend]

/-- At most one line of a declaration names tools. -/
theorem toolsLines_eq_singleton {names : List String} {line : String}
    (h : line ∈ toolsLines names) : toolsLines names = [line] := by
  unfold toolsLines at h ⊢
  split at h
  · cases h
  next hnames => rw [if_neg hnames, List.mem_singleton.mp h]

namespace Blueprint

variable {b : Blueprint} {d : Defaults}

/-- The variables of the agents, in order. -/
def identifiers (b : Blueprint) (d : Defaults) : List String :=
  b.agents.map (·.value.identifier d)

theorem agents_ne_nil (h : b.identifiers d ≠ []) : b.agents ≠ [] :=
  fun hnil => h (List.map_eq_nil_iff.mpr hnil)

/-- The lines of the agents are those of their declarations, apart from blank ones. -/
theorem filter_linesOf_agents {p : String → Bool} (hp : p "" = false) :
    (b.linesOf d .agents).filter p = b.agents.flatMap fun agent =>
      (agent.value.lines d (b.toolNamesFor d agent.id)).filter p := by
  rw [linesOf, part, agentsPart, filter_lines_joinParts hp, List.flatMap_map]
  refine List.flatMap_congr fun agent _ => ?_
  rw [agent.value.lines_declaration d isNameText_toolNamesFor]

/-- A line of the agents belongs to the declaration of one of them, unless it is between two. -/
theorem exists_agent_of_mem_linesOf {line : String} (h : line ∈ b.linesOf d .agents)
    (hline : line ≠ "") :
    ∃ agent ∈ b.agents, line ∈ agent.value.lines d (b.toolNamesFor d agent.id) := by
  rw [linesOf, part, agentsPart, mem_lines_joinParts_iff hline] at h
  obtain ⟨text, htext, hmem⟩ := h
  obtain ⟨agent, hagent, rfl⟩ := List.mem_map.mp htext
  rw [agent.value.lines_declaration d isNameText_toolNamesFor] at hmem
  exact ⟨agent, hagent, hmem⟩

/-- The lines that declare agents, in order. -/
theorem filter_isHeadLine :
    (b.linesOf d .agents).filter IsHeadLine = (b.identifiers d).map Agent.headLine := by
  rw [filter_linesOf_agents (by decide)]
  simp only [Agent.filter_isHeadLine, identifiers, List.map_map]
  exact List.map_eq_flatMap.symm

/-- The lines that name tools, in order. -/
theorem filter_isToolsLine : (b.linesOf d .agents).filter IsToolsLine =
    b.agents.flatMap fun agent => toolsLines (b.toolNamesFor d agent.id) := by
  rw [filter_linesOf_agents (by decide)]
  simp only [Agent.filter_lines]

/-- Every tool of an agent is a function of the program. -/
theorem exists_function_of_mem_toolNamesFor {id name : String} (h : name ∈ b.toolNamesFor d id) :
    .tools ∈ b.presentParts d ∧ ∃ rest, "def " ++ name ++ "(" ++ rest ∈ b.linesOf d .tools := by
  obtain ⟨tool, htool, rfl⟩ := mem_toolNamesFor h
  obtain ⟨rest, hline⟩ := tool.value.exists_line_declaration d
  have hne : "def " ++ tool.value.functionName d ++ "(" ++ rest ≠ "" := by simp
  refine ⟨mem_presentParts_tools_iff.mpr (List.ne_nil_of_mem htool), rest, ?_⟩
  rw [linesOf, part, toolsPart, mem_lines_joinParts_iff hne]
  exact ⟨_, List.mem_map_of_mem (List.mem_map_of_mem htool), hline⟩

/-! ## Entry points -/

/-- The entry point of a program. -/
def entry (b : Blueprint) (d : Defaults) : EntryPoint :=
  entryPoint d (b.agents.map (·.value)) b.runners

theorem entry_of_eq_nil (h : b.runners = [] ∨ b.agents = []) : b.entry d = .guidance := by
  unfold entry entryPoint
  rcases h with h | h
  · rw [h]
  · rw [h]
    cases b.runners <;> rfl

/-- The only agent is run directly. -/
theorem entry_of_single {identifier : String} (hrunners : b.runners ≠ [])
    (h : b.identifiers d = [identifier]) :
    ∃ task mode, b.entry d = .single identifier task mode := by
  obtain ⟨first, rest, hrunners⟩ := List.exists_cons_of_ne_nil hrunners
  obtain ⟨agent, hagent, rfl⟩ := List.map_eq_singleton_iff.mp h
  exact ⟨_, _, by rw [entry, hrunners, hagent]; rfl⟩

/-- Several agents are run as a team, in their order. -/
theorem entry_of_team (hrunners : b.runners ≠ []) (h : 2 ≤ (b.identifiers d).length) :
    ∃ task token, b.entry d = .team (b.identifiers d) task token := by
  obtain ⟨first, rest, hrunners⟩ := List.exists_cons_of_ne_nil hrunners
  match hagents : b.agents with
  | [] => simp [identifiers, hagents] at h
  | [agent] => simp [identifiers, hagents] at h
  | agent :: next :: others =>
    refine ⟨orElse first.input d.task, d.terminationToken, ?_⟩
    simp [entry, identifiers, entryPoint, hrunners, hagents]

/-- With runners, an entry point runs the only agent or several agents. -/
theorem entry_cases_of_ne_nil (hagents : b.agents ≠ []) (hrunners : b.runners ≠ []) :
    (∃ identifier task mode, b.identifiers d = [identifier] ∧
      b.entry d = .single identifier task mode) ∨
    ∃ task token, 2 ≤ b.agents.length ∧ b.entry d = .team (b.identifiers d) task token := by
  have hlength : (b.identifiers d).length = b.agents.length := List.length_map _
  match hidentifiers : b.identifiers d with
  | [] => exact absurd (List.map_eq_nil_iff.mp hidentifiers) hagents
  | [identifier] =>
    obtain ⟨task, mode, hentry⟩ := entry_of_single hrunners hidentifiers
    exact .inl ⟨identifier, task, mode, rfl, hentry⟩
  | first :: next :: others =>
    have hseveral : 2 ≤ (b.identifiers d).length := by simp [hidentifiers]
    obtain ⟨task, token, hentry⟩ := entry_of_team hrunners hseveral
    exact .inr ⟨task, token, hlength ▸ hseveral, hidentifiers ▸ hentry⟩

/-- An entry point runs no agent, the only agent or several agents. -/
theorem entry_cases (b : Blueprint) (d : Defaults) : b.entry d = .guidance ∨
    (∃ identifier task mode, b.identifiers d = [identifier] ∧
      b.entry d = .single identifier task mode) ∨
    ∃ task token, 2 ≤ b.agents.length ∧ b.entry d = .team (b.identifiers d) task token := by
  by_cases hnone : b.runners = [] ∨ b.agents = []
  · exact .inl (entry_of_eq_nil hnone)
  · obtain ⟨hrunners, hagents⟩ := not_or.mp hnone
    exact .inr (entry_cases_of_ne_nil hagents hrunners)

/-- An entry point runs declared agents only. -/
theorem agents_entry_subset (b : Blueprint) (d : Defaults) :
    (b.entry d).agents ⊆ b.identifiers d := by
  rcases b.entry_cases d with hentry | ⟨identifier, task, mode, hidentifiers, hentry⟩ |
    ⟨task, token, -, hentry⟩ <;> simp [EntryPoint.agents, *]

/-- With runners, an entry point runs all agents. -/
theorem agents_entry_eq (hagents : b.agents ≠ []) (hrunners : b.runners ≠ []) :
    (b.entry d).agents = b.identifiers d := by
  rcases entry_cases_of_ne_nil (d := d) hagents hrunners with
    ⟨identifier, task, mode, hidentifiers, hentry⟩ | ⟨task, token, -, hentry⟩ <;>
      simp [EntryPoint.agents, *]

theorem isNameText_agents_entry (b : Blueprint) (d : Defaults) :
    ∀ name ∈ (b.entry d).agents, IsNameText name := by
  intro name hname
  obtain ⟨agent, -, rfl⟩ := List.mem_map.mp (b.agents_entry_subset d hname)
  exact agent.value.isNameText_identifier d

theorem linesOf_entryPoint (b : Blueprint) (d : Defaults) :
    b.linesOf d .entryPoint = (b.entry d).lines :=
  EntryPoint.lines_declaration (b.isNameText_agents_entry d)

/-! ## Imports and model clients -/

theorem linesOf_imports (b : Blueprint) (d : Defaults) : b.linesOf d .imports =
    baseImports ++ (if 0 < b.tools.length then toolImports else []) ++
      (if 1 < b.agents.length then teamImports else []) := by
  have hbase : ∀ line ∈ baseImports, '\n' ∉ line.toList := by
    simp only [baseImports, List.forall_mem_cons]
    refine ⟨?_, ?_, ?_, List.forall_mem_nil _⟩ <;> exact newline_not_mem_ofList (by decide)
  have htool : ∀ line ∈ toolImports, '\n' ∉ line.toList := by
    simp only [toolImports, List.forall_mem_cons]
    refine ⟨?_, ?_, List.forall_mem_nil _⟩ <;> exact newline_not_mem_ofList (by decide)
  have hteam : ∀ line ∈ teamImports, '\n' ∉ line.toList := by
    simp only [teamImports, List.forall_mem_cons]
    refine ⟨?_, ?_, ?_, List.forall_mem_nil _⟩ <;> exact newline_not_mem_ofList (by decide)
  refine Text.lines_joinLines_of_forall (by simp [baseImports]) ?_
  simp only [List.forall_mem_append]
  refine ⟨⟨hbase, ?_⟩, ?_⟩
  · split
    · exact htool
    · exact List.forall_mem_nil _
  · split
    · exact hteam
    · exact List.forall_mem_nil _

theorem linesOf_imports_subset (b : Blueprint) (d : Defaults) :
    b.linesOf d .imports ⊆ baseImports ++ toolImports ++ teamImports := by
  intro line hline
  simp only [linesOf_imports, List.mem_append, List.mem_ite_nil_right] at hline ⊢
  exact hline.imp (Or.imp_right And.right) And.right

theorem linesOf_client (h : b.agents ≠ []) : b.linesOf d .client = clientLines d := by
  have hcount : b.agents.length ≠ 0 := by simpa using h
  rw [linesOf, part, clientPart, if_neg hcount, lines_clientDeclaration]

/-! ## Names are bound before they are used -/

section

variable {parts : List Part}

/-- A name that a line of a part binds is bound in the parts. -/
theorem exists_binds_of_mem {part : Part} {line name : String} (hpart : part ∈ parts)
    (hline : line ∈ b.linesOf d part) (h : Binds line name) :
    ∃ other ∈ parts.flatMap (b.linesOf d), Binds other name :=
  ⟨line, List.mem_flatMap.mpr ⟨part, hpart, hline⟩, h⟩

theorem exists_binds_imported (himports : .imports ∈ parts) {name : String}
    (h : name ∈ ["asyncio", "AssistantAgent", "OpenAIChatCompletionClient"]) :
    ∃ other ∈ parts.flatMap (b.linesOf d), Binds other name := by
  obtain ⟨line, hline, hbinds⟩ := exists_binds_baseImports name h
  refine exists_binds_of_mem himports ?_ hbinds
  simp [linesOf_imports, hline]

theorem exists_binds_client (hclient : .client ∈ parts) (hagents : b.agents ≠ []) :
    ∃ other ∈ parts.flatMap (b.linesOf d), Binds other "get_model_client" := by
  obtain ⟨line, hline, hbinds⟩ := binds_clientLines d
  exact exists_binds_of_mem hclient (by rwa [linesOf_client hagents]) hbinds

theorem exists_binds_identifier (hpart : .agents ∈ parts) {identifier : String}
    (h : identifier ∈ b.identifiers d) :
    ∃ other ∈ parts.flatMap (b.linesOf d), Binds other identifier := by
  have hline : Agent.headLine identifier ∈ (b.linesOf d .agents).filter IsHeadLine := by
    rw [filter_isHeadLine]
    exact List.mem_map_of_mem h
  exact exists_binds_of_mem hpart (List.mem_of_mem_filter hline) (Agent.binds_headLine identifier)

theorem resolved_linesOf_client (himports : .imports ∈ parts) (hclient : .client ∈ parts)
    (hagents : b.agents ≠ []) :
    ∀ line ∈ b.linesOf d .client, Resolved (parts.flatMap (b.linesOf d)) line := by
  intro line hline
  rw [linesOf_client hagents] at hline
  refine (mentionsOnly_clientLines d line hline).resolved ?_
  simp only [List.forall_mem_cons]
  exact ⟨exists_binds_client hclient hagents, exists_binds_imported himports (by simp),
    List.forall_mem_nil _⟩

theorem resolved_linesOf_agents (himports : .imports ∈ parts)
    (htools : b.tools ≠ [] → .tools ∈ parts) (hclient : .client ∈ parts) (hpart : .agents ∈ parts) :
    ∀ line ∈ b.linesOf d .agents, Resolved (parts.flatMap (b.linesOf d)) line := by
  intro line hline
  by_cases hblank : line = ""
  -- nothing is mentioned between declarations
  · intro name hname
    rw [hblank] at hname
    cases hname
  · obtain ⟨agent, hagent, hline⟩ := exists_agent_of_mem_linesOf hline hblank
    refine (agent.value.mentionsOnly_lines d isNameText_toolNamesFor line hline).resolved ?_
    simp only [Agent.references, List.forall_mem_cons]
    refine ⟨exists_binds_identifier hpart (List.mem_map_of_mem hagent),
      exists_binds_imported himports (by simp),
      exists_binds_client hclient (List.ne_nil_of_mem hagent), fun name hname => ?_⟩
    obtain ⟨_, rest, hfunction⟩ := exists_function_of_mem_toolNamesFor hname
    obtain ⟨tool, htool, -⟩ := mem_toolNamesFor hname
    exact exists_binds_of_mem (htools (List.ne_nil_of_mem htool)) hfunction
      (.function "" name rest (by decide))

theorem exists_binds_scaffold (himports : .imports ∈ parts)
    (hclient : b.agents ≠ [] → .client ∈ parts) (hpart : .entryPoint ∈ parts) {name : String}
    (h : name ∈ (b.entry d).scaffold) :
    ∃ other ∈ parts.flatMap (b.linesOf d), Binds other name := by
  have hlocal {name : String} (h : name ∈ (b.entry d).locals) :
      ∃ other ∈ parts.flatMap (b.linesOf d), Binds other name := by
    obtain ⟨line, hline, hbinds⟩ := EntryPoint.exists_binds_of_mem_locals h
    exact exists_binds_of_mem hpart (by rwa [linesOf_entryPoint]) hbinds
  rcases b.entry_cases d with hentry | ⟨identifier, task, mode, hidentifiers, hentry⟩ |
    ⟨task, token, hcount, hentry⟩
  · rw [hentry] at h
    cases h
  · have hagents := agents_ne_nil (hidentifiers ▸ List.cons_ne_nil identifier [])
    rw [hentry, EntryPoint.scaffold, List.mem_cons, List.mem_cons, ← hentry] at h
    rcases h with rfl | rfl | h
    · exact exists_binds_imported himports (by simp)
    · exact exists_binds_client (hclient hagents) hagents
    · exact hlocal h
  · have hagents : b.agents ≠ [] := by
      rintro hnil
      simp [hnil] at hcount
    -- the imports of teams have the same condition as the team itself: several agents
    have hteam {name : String} (h : name ∈ ["RoundRobinGroupChat", "TextMentionTermination",
        "Console"]) : ∃ other ∈ parts.flatMap (b.linesOf d), Binds other name := by
      obtain ⟨line, hline, hbinds⟩ := exists_binds_teamImports name h
      have himported : 1 < b.agents.length := hcount
      exact exists_binds_of_mem himports (by simp [linesOf_imports, himported, hline]) hbinds
    rw [hentry, EntryPoint.scaffold] at h
    simp only [List.mem_cons, ← hentry] at h
    rcases h with rfl | rfl | rfl | rfl | rfl | h
    · exact exists_binds_imported himports (by simp)
    · exact exists_binds_client (hclient hagents) hagents
    · exact hteam (by simp)
    · exact hteam (by simp)
    · exact hteam (by simp)
    · exact hlocal h

theorem resolved_linesOf_entryPoint (himports : .imports ∈ parts)
    (hclient : b.agents ≠ [] → .client ∈ parts) (hagents : b.agents ≠ [] → .agents ∈ parts)
    (hpart : .entryPoint ∈ parts) :
    ∀ line ∈ b.linesOf d .entryPoint, Resolved (parts.flatMap (b.linesOf d)) line := by
  intro line hline
  rw [linesOf_entryPoint] at hline
  have hnames := b.isNameText_agents_entry d
  refine (EntryPoint.mentionsOnly_lines hnames line hline).resolved fun name hname => ?_
  rcases List.mem_append.mp hname with hname | hname
  · exact exists_binds_scaffold himports hclient hpart hname
  · have hidentifier := b.agents_entry_subset d hname
    have hne : b.agents ≠ [] := agents_ne_nil (List.ne_nil_of_mem hidentifier)
    exact exists_binds_identifier (hagents hne) hidentifier

end

/-- What a part refers to is bound in front of the part or in the part itself. -/
theorem resolved_linesOf {front back : List Part} {part : Part}
    (h : b.presentParts d = front ++ part :: back)
    (hpart : part ∈ [.client, .agents, .entryPoint]) :
    ∀ line ∈ b.linesOf d part, Resolved ((front ++ [part]).flatMap (b.linesOf d)) line := by
  have hself : part ∈ front ++ [part] := by simp
  have hpresent : part ∈ b.presentParts d := by simp [h]
  have hbefore {other : Part} (hother : other ∈ b.presentParts d)
      (hlt : Part.all.idxOf other < Part.all.idxOf part) : other ∈ front ++ [part] :=
    List.mem_append_left _ (mem_front_of_idxOf_lt h hother hlt)
  have himports := b.mem_presentParts_imports d
  have htools := fun htools : b.tools ≠ [] => mem_presentParts_tools_iff (d := d).mpr htools
  have hclient := fun hagents : b.agents ≠ [] => mem_presentParts_client_iff (d := d).mpr hagents
  have hagents := fun hagents : b.agents ≠ [] => mem_presentParts_agents_iff (d := d).mpr hagents
  simp only [List.mem_cons, List.not_mem_nil, or_false] at hpart
  -- the parts that a part needs come earlier in the fixed order
  rcases hpart with rfl | rfl | rfl
  · exact resolved_linesOf_client (hbefore himports (by decide)) hself
      (mem_presentParts_client_iff.mp hpresent)
  · have hne := mem_presentParts_agents_iff.mp hpresent
    exact resolved_linesOf_agents (hbefore himports (by decide))
      (fun hne => hbefore (htools hne) (by decide)) (hbefore (hclient hne) (by decide)) hself
  · exact resolved_linesOf_entryPoint (hbefore himports (by decide))
      (fun hne => hbefore (hclient hne) (by decide)) (fun hne => hbefore (hagents hne) (by decide))
      hself

/-- The factory of model clients is there when it is called. -/
theorem mem_presentParts_client_of_mentions {line : String}
    (hline : line ∈ b.linesOf d .entryPoint) (h : "get_model_client" ∈ mentions line) :
    .client ∈ b.presentParts d := by
  rw [mem_presentParts_client_iff]
  intro hagents
  -- without agents only guidance is printed, which calls nothing of the program
  have hguidance := entry_of_eq_nil (d := d) (.inr hagents)
  rw [linesOf_entryPoint] at hline
  have honly := EntryPoint.mentionsOnly_lines (b.isNameText_agents_entry d) line hline _ h
  rw [hguidance] at honly
  exact absurd honly (by decide)

/-- Only an entry point that runs a team looks like one. -/
theorem two_le_of_linesOf_eq_team {agents : List String} {task token : String}
    (h : b.linesOf d .entryPoint = (EntryPoint.team agents task token).lines) :
    2 ≤ b.agents.length := by
  rw [linesOf_entryPoint] at h
  have hlength := congrArg List.length h
  -- entry points of another shape have fewer lines
  rcases b.entry_cases d with hentry | ⟨identifier, _, mode, -, hentry⟩ | ⟨_, _, hcount, -⟩
  · rw [hentry] at hlength
    cases hlength
  · rw [hentry] at hlength
    cases mode <;> cases hlength
  · exact hcount

end Blueprint

namespace Workflow

variable {w : Workflow} {b : Blueprint} {d : Defaults}

/-- Nothing that the program of a workflow refers to is missing. -/
structure SelfContained (w : Workflow) (d : Defaults) (b : Blueprint)
    (identifiers : List String) : Prop where
  /-- Every agent has a variable. -/
  named : List.Forall₂ (fun node identifier => ∃ a, node.attributes = .ok (.agent a) ∧
    a.identifier d = identifier) (w.nodesOfKind .agent) identifiers
  /-- The agents are declared in node order, each of them once. -/
  declared : (b.linesOf d .agents).filter IsHeadLine = identifiers.map Agent.headLine
  /-- Their declarations are part of the program if there are any. -/
  agentsPresent : .agents ∈ b.presentParts d ↔ ∃ node ∈ w.nodes, node.kind = .agent
  entryPresent : .entryPoint ∈ b.presentParts d
  /-- A runner runs the only agent. -/
  single : w.nodesOfKind .runner ≠ [] → ∀ identifier, identifiers = [identifier] →
    ∃ task mode, b.linesOf d .entryPoint = (EntryPoint.single identifier task mode).lines
  /-- A runner runs several agents as a team, in node order. -/
  team : w.nodesOfKind .runner ≠ [] → 2 ≤ identifiers.length →
    ∃ task token, b.linesOf d .entryPoint = (EntryPoint.team identifiers task token).lines
  /-- The tools of agents are functions of the program. -/
  tools : ∀ line ∈ b.linesOf d .agents, IsToolsLine line → ∃ names, toolsLines names = [line] ∧
    ∀ name ∈ names, IsNameText name ∧ .tools ∈ b.presentParts d ∧
      ∃ rest, "def " ++ name ++ "(" ++ rest ∈ b.linesOf d .tools
  /-- The factory of model clients is there exactly if there are agents. -/
  client : .client ∈ b.presentParts d ↔ ∃ node ∈ w.nodes, node.kind = .agent
  clientBound : .client ∈ b.presentParts d →
    ∃ line ∈ b.linesOf d .client, Binds line "get_model_client"
  /-- The factory of model clients is there if the entry point calls it. -/
  clientCalled : ∀ line ∈ b.linesOf d .entryPoint, "get_model_client" ∈ mentions line →
    .client ∈ b.presentParts d
  /-- What a team needs is imported. -/
  imported : ∀ agents task token,
    b.linesOf d .entryPoint = (EntryPoint.team agents task token).lines →
      .imports ∈ b.presentParts d ∧
        ∀ name ∈ ["RoundRobinGroupChat", "TextMentionTermination", "Console"],
          ∃ line ∈ b.linesOf d .imports, Binds line name
  /-- What a part refers to is bound in front of the part or in the part itself. -/
  ordered : ∀ front part back, b.presentParts d = front ++ part :: back →
    part ∈ [.client, .agents, .entryPoint] → ∀ line ∈ b.linesOf d part,
      Resolved ((front ++ [part]).flatMap (b.linesOf d)) line

/-- With an agent, the runners of a blueprint are those of the workflow. -/
theorem runners_ne_nil (hb : w.blueprint = .ok b) (hagents : b.agents ≠ [])
    (h : w.nodesOfKind .runner ≠ []) : b.runners ≠ [] := by
  obtain ⟨-, -, hrunners, -⟩ := blueprint_eq_ok_iff.mp hb
  have hagent := nodesOfKind_ne_nil_iff.mpr ((agents_ne_nil_iff hb).mp hagents)
  intro hnil
  rw [hnil, activeRunners_eq_nodesOfKind hagent] at hrunners
  exact h (List.map_eq_nil_iff.mp hrunners)

theorem selfContained_of_blueprint (hb : w.blueprint = .ok b) :
    w.SelfContained d b (b.identifiers d) where
  named := by
    rw [Blueprint.identifiers, List.forall₂_map_right_iff]
    exact (forall₂_agents hb).imp fun _ agent h => ⟨agent.value, h.2, rfl⟩
  declared := Blueprint.filter_isHeadLine
  agentsPresent := Blueprint.mem_presentParts_agents_iff.trans (agents_ne_nil_iff hb)
  entryPresent := b.mem_presentParts_entryPoint d
  single := by
    intro hrunners identifier hidentifiers
    have hagents := Blueprint.agents_ne_nil (hidentifiers ▸ List.cons_ne_nil identifier [])
    rw [Blueprint.linesOf_entryPoint]
    obtain ⟨task, mode, hentry⟩ :=
      Blueprint.entry_of_single (runners_ne_nil hb hagents hrunners) hidentifiers
    exact ⟨task, mode, congrArg EntryPoint.lines hentry⟩
  team := by
    intro hrunners hcount
    have hagents : b.agents ≠ [] := Blueprint.agents_ne_nil (d := d)
      (List.ne_nil_of_length_pos (Nat.lt_of_lt_of_le Nat.two_pos hcount))
    rw [Blueprint.linesOf_entryPoint]
    obtain ⟨task, token, hentry⟩ :=
      Blueprint.entry_of_team (runners_ne_nil hb hagents hrunners) hcount
    exact ⟨task, token, congrArg EntryPoint.lines hentry⟩
  tools := by
    intro line hline htools
    have hfilter : line ∈ (b.linesOf d .agents).filter IsToolsLine :=
      List.mem_filter.mpr ⟨hline, decide_eq_true htools⟩
    rw [Blueprint.filter_isToolsLine] at hfilter
    obtain ⟨agent, -, hmem⟩ := List.mem_flatMap.mp hfilter
    exact ⟨b.toolNamesFor d agent.id, toolsLines_eq_singleton hmem, fun name hname =>
      ⟨Blueprint.isNameText_toolNamesFor name hname,
        Blueprint.exists_function_of_mem_toolNamesFor hname⟩⟩
  client := Blueprint.mem_presentParts_client_iff.trans (agents_ne_nil_iff hb)
  clientBound hclient := by
    rw [Blueprint.linesOf_client (Blueprint.mem_presentParts_client_iff.mp hclient)]
    exact binds_clientLines d
  clientCalled _ hline h := Blueprint.mem_presentParts_client_of_mentions hline h
  imported := by
    intro agents task token hteam
    refine ⟨b.mem_presentParts_imports d, fun name hname => ?_⟩
    obtain ⟨line, hline, hbinds⟩ := exists_binds_teamImports name hname
    have hseveral : 1 < b.agents.length := Blueprint.two_le_of_linesOf_eq_team hteam
    exact ⟨line, by simp [Blueprint.linesOf_imports, hseveral, hline], hbinds⟩
  ordered _ _ _ h hpart := Blueprint.resolved_linesOf h hpart

/-- A program whose attributes can be read consists of its parts in their fixed order, and nothing
that it refers to is missing. -/
theorem generate_selfContained (d : Defaults) {w : Workflow} (hreadable : w.Readable) :
    ∃ b g identifiers, w.blueprint = .ok b ∧ w.generate d = .ok g ∧
      g.code = joinParts ((b.presentParts d).map (b.part d)) ∧
      (b.presentParts d).Sublist Part.all ∧ w.SelfContained d b identifiers := by
  obtain ⟨g, hg⟩ := exists_generate_eq_ok_iff (d := d).mpr hreadable
  obtain ⟨_, b, -, hb, rfl⟩ := generate_eq_ok_iff.mp hg
  exact ⟨b, _, b.identifiers d, hb, hg, b.code_eq_joinParts d, List.filter_sublist,
    selfContained_of_blueprint hb⟩

/-- The program of the toolbox declares two agents and runs them as a team. -/
theorem generate_selfContained_toolbox : toolbox.Readable ∧
    ∃ b, toolbox.blueprint = .ok b ∧
      (b.linesOf .builtIn .agents).filter IsHeadLine =
        ["ann = AssistantAgent(", "ben = AssistantAgent("] ∧
      (∃ task token,
        b.linesOf .builtIn .entryPoint = (EntryPoint.team ["ann", "ben"] task token).lines) ∧
      ∀ front back, b.presentParts .builtIn = front ++ .entryPoint :: back →
        ∀ line ∈ b.linesOf .builtIn .entryPoint,
          Resolved ((front ++ [.entryPoint]).flatMap (b.linesOf .builtIn)) line := by
  refine ⟨readable_toolbox, ?_⟩
  obtain ⟨b, _, identifiers, hb, -, -, -, hcontained⟩ :=
    generate_selfContained .builtIn readable_toolbox
  have hagents : toolbox.nodesOfKind .agent =
      [⟨"a", .agent, ⟨.zero, .zero⟩, .obj [("name", .str "Ann")]⟩,
        ⟨"b", .agent, ⟨.zero, .zero⟩, .obj [("name", .str "Ben")]⟩] := rfl
  have hidentifiers : identifiers = ["ann", "ben"] := by
    have hnamed := hcontained.named
    rw [hagents] at hnamed
    obtain - | ⟨⟨a, ha, rfl⟩, - | ⟨⟨b, hb, rfl⟩, ⟨⟩⟩⟩ := hnamed
    cases ha
    cases hb
    rfl
  refine ⟨b, hb, ?_, ?_, fun front back h => hcontained.ordered _ _ _ h (by simp)⟩
  · rw [hcontained.declared, hidentifiers]
    rfl
  · rw [← hidentifiers]
    exact hcontained.team (by decide) (by simp [hidentifiers])

end Workflow

end AgentCanvas
