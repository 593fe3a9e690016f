import AgentCanvas.Proofs.Graph.Roles
import AgentCanvas.Proofs.Program.Assembly
import AgentCanvas.Proofs.Program.Blueprint

/-!
# Tools of agents

The declaration of an agent finds its tools through the connections. They are the tools that the
roles of edges hand to the agent: other edges add none, and the order is that of the edges.

## Key definitions

- `Workflow.toolEdges`: the edges that hand tools to a node.
- `Workflow.Hands`: which function an edge hands over.
- `IsToolsLine`: the lines of a program that name the tools of an agent.

## Key results

- `Workflow.toolName?_eq_some_iff`: a name is found under the id of a tool only.
- `Workflow.exists_names_of_toolEdges`: the tools of an agent are those of its edges.
- `Agent.filter_lines`: the line of a declaration that names tools.
- `Workflow.generate_toolEdges`: the tools in the declarations of a program.
-/

namespace AgentCanvas

open Text (IsNameText)

namespace Workflow

variable {w : Workflow} {b : Blueprint} {d : Defaults}

/-! ## Tools by id -/

/-- The edges that hand tools to the node with an id, in order. -/
def toolEdges (w : Workflow) (id : String) : List Edge :=
  w.edges.filter fun edge => edge.target = id ∧ w.role? edge = some .tool

/-- The source of an edge is a tool whose function has the name. -/
def Hands (w : Workflow) (d : Defaults) (edge : Edge) (name : String) : Prop :=
  ∃ source t, w.node? edge.source = some source ∧ source.attributes = .ok (.tool t) ∧
    t.functionName d = name

/-- The tools of a blueprint are those nodes that have the attributes of tools. -/
theorem mem_tools_iff (hb : w.blueprint = .ok b) {id : String} {t : Tool} :
    ⟨id, t⟩ ∈ b.tools ↔ ∃ node ∈ w.nodes, node.id = id ∧ node.attributes = .ok (.tool t) := by
  obtain ⟨-, htools, -, -⟩ := blueprint_eq_ok_iff.mp hb
  constructor
  · intro htool
    have hview : (id, Except.ok (Attributes.tool t)) ∈ (w.nodesOfKind .tool).map Node.view := by
      rw [htools]
      exact List.mem_map.mpr ⟨_, htool, rfl⟩
    obtain ⟨node, hnode, heq⟩ := List.mem_map.mp hview
    obtain ⟨hid, hattributes⟩ := Prod.mk.inj heq
    exact ⟨node, (mem_nodesOfKind.mp hnode).1, hid, hattributes⟩
  · rintro ⟨node, hnode, rfl, hattributes⟩
    have hview : node.view ∈ (w.nodesOfKind .tool).map Node.view := List.mem_map_of_mem
      (mem_nodesOfKind.mpr ⟨hnode, Node.kind_of_attributes hattributes⟩)
    rw [htools, Node.view, hattributes] at hview
    obtain ⟨⟨_, _⟩, htool, heq⟩ := List.mem_map.mp hview
    cases heq
    exact htool

/-- Where ids are distinct, a name is found under an id exactly if it names the tool with the id. -/
theorem toolName?_eq_some_iff (hids : w.DistinctIds) (hb : w.blueprint = .ok b) {edge : Edge}
    {name : String} : b.toolName? d edge.source = some name ↔ w.Hands d edge name := by
  -- a name is looked for from the end, which makes no difference among distinct ids
  have hnodup : (b.tools.map (·.id)).Nodup := by
    rw [← ids_tools hb]
    exact List.Nodup.sublist (List.Sublist.map _ List.filter_sublist) hids
  rw [Blueprint.toolName?, List.find?_reverse_of_nodup_map hnodup, Option.map_eq_some_iff]
  simp only [List.find?_eq_some_iff_of_nodup_map hnodup, Hands, hids.node?_eq_some_iff]
  constructor
  · rintro ⟨⟨id, t⟩, ⟨htool, hid⟩, hname⟩
    obtain ⟨node, hnode, hnodeId, hattributes⟩ := (mem_tools_iff hb).mp htool
    exact ⟨node, t, ⟨hnode, hnodeId.trans hid⟩, hattributes, hname⟩
  · rintro ⟨node, t, ⟨hnode, hid⟩, hattributes, hname⟩
    exact ⟨⟨edge.source, t⟩, ⟨(mem_tools_iff hb).mpr ⟨node, hnode, hid, hattributes⟩, rfl⟩, hname⟩

/-- An edge to an agent plays the role of a tool exactly if it hands over a function. -/
theorem role?_eq_tool_iff_hands (hids : w.DistinctIds) (hreadable : w.Readable) {agent : Node}
    (hagent : agent ∈ w.nodesOfKind .agent) {edge : Edge} (htarget : edge.target = agent.id) :
    w.role? edge = some .tool ↔ ∃ name, w.Hands d edge name := by
  obtain ⟨hmem, hkind⟩ := mem_nodesOfKind.mp hagent
  rw [role?_eq_tool_iff]
  constructor
  · rintro ⟨source, -, hsource, -, htool, -⟩
    obtain ⟨t, hattributes⟩ := (hreadable source (mem_and_id_of_node? hsource).1).exists_tool htool
    exact ⟨t.functionName d, source, t, hsource, hattributes, rfl⟩
  · rintro ⟨_, source, t, hsource, hattributes, -⟩
    exact ⟨source, agent, hsource, hids.node?_target hmem htarget,
      Node.kind_of_attributes hattributes, hkind⟩

/-- The tools of an agent are those that edges hand to it, each once. -/
theorem exists_names_of_toolEdges (hids : w.DistinctIds) (hreadable : w.Readable)
    (hb : w.blueprint = .ok b) {agent : Node} (hagent : agent ∈ w.nodesOfKind .agent) :
    ∃ names, List.Forall₂ (w.Hands d) (w.toolEdges agent.id) names ∧
      b.toolNamesFor d agent.id = names.eraseDups := by
  obtain ⟨-, -, -, hconnections⟩ := blueprint_eq_ok_iff.mp hb
  refine ⟨((w.incoming agent.id).map (·.source)).filterMap (b.toolName? d), ?_, ?_⟩
  · have hedges : w.toolEdges agent.id =
        (w.incoming agent.id).filter fun edge => w.role? edge = some .tool := by
      simp [toolEdges, incoming, List.filter_filter, Bool.and_comm]
    rw [hedges, List.filterMap_map]
    have hrole {edge : Edge} (hedge : edge ∈ w.incoming agent.id) :
        w.role? edge = some .tool ↔ ∃ name, w.Hands d edge name :=
      role?_eq_tool_iff_hands hids hreadable hagent (by simpa using (List.mem_filter.mp hedge).2)
    refine List.forall₂_filter_filterMap (fun edge hedge htool => ?_) (fun edge hedge hother => ?_)
    · obtain ⟨name, hname⟩ := (hrole hedge).mp (by simpa using htool)
      exact ⟨name, (toolName?_eq_some_iff hids hb).mpr hname, hname⟩
    · -- a name found under the source would make the edge play the role of a tool
      refine Option.eq_none_iff_forall_ne_some.mpr fun name hname => ?_
      have htool := (hrole hedge).mpr ⟨name, (toolName?_eq_some_iff hids hb).mp hname⟩
      simp [htool] at hother
  · rw [Blueprint.toolNamesFor, hconnections, Connections.sources_ofEdges]

end Workflow

/-! ## Tools in declarations -/

/-- A line names the tools of an agent. -/
def IsToolsLine (line : String) : Prop :=
  "    tools=[".toList <+: line.toList

instance (line : String) : Decidable (IsToolsLine line) :=
  inferInstanceAs (Decidable ("    tools=[".toList <+: line.toList))

/-- An argument that hands over a text is not one that names tools. -/
theorem filter_textLines (name : String) (h : ∀ rest, ¬IsToolsLine ("    " ++ (name ++ rest)))
    (text : String) : (textLines name text).filter IsToolsLine = [] := by
  rw [List.filter_eq_nil_iff]
  refine forall_mem_textLines ?_
  rw [String.append_assoc, String.append_assoc, decide_eq_true_eq]
  exact h _

theorem filter_toolsLines (names : List String) :
    (toolsLines names).filter IsToolsLine = toolsLines names := by
  rw [List.filter_eq_self]
  exact forall_mem_toolsLines (by simp [IsToolsLine])

/-- No name begins with the margin of an argument. -/
theorem not_isToolsLine_headLine {identifier : String} (h : IsNameText identifier) :
    ¬IsToolsLine (Agent.headLine identifier) := by
  rw [IsToolsLine, Agent.headLine, String.toList_append]
  cases hchars : identifier.toList with
  | nil => decide
  | cons c rest =>
    have hc : ' ' ≠ c := by
      rintro rfl
      exact absurd (h ' ' (hchars ▸ List.mem_cons_self)) (by decide)
    simp [hc]

/-- Of the lines of a declaration, only the one that names the tools names tools. -/
theorem Agent.filter_lines (d : Defaults) (a : Agent) (toolNames : List String) :
    (a.lines d toolNames).filter IsToolsLine = toolsLines toolNames := by
  have hhead := not_isToolsLine_headLine (a.isNameText_identifier d)
  have hname : ¬IsToolsLine ("    " ++ ("name=" ++ Text.quote (a.displayName d) ++ ",")) := by
    simp [IsToolsLine]
  have hdescription := filter_textLines "description" (by simp [IsToolsLine]) a.description
  have hsystem := filter_textLines "system_message" (by simp [IsToolsLine]) a.systemMessage
  have hclient : ¬IsToolsLine "    model_client=get_model_client()," := by decide
  have hend : ¬IsToolsLine ")" := by decide
  simp [lines, hhead, hname, hdescription, hsystem, filter_toolsLines, hclient, hend]

namespace Blueprint

variable {b : Blueprint} {d : Defaults}

/-- The tools of an agent are tools of the program. -/
theorem mem_toolNamesFor {id name : String} (h : name ∈ b.toolNamesFor d id) :
    ∃ tool ∈ b.tools, tool.value.functionName d = name := by
  rw [toolNamesFor, List.mem_eraseDups, List.mem_filterMap] at h
  obtain ⟨source, -, hname⟩ := h
  obtain ⟨tool, htool, rfl⟩ := Option.map_eq_some_iff.mp hname
  exact ⟨tool, List.mem_reverse.mp (List.mem_of_find?_eq_some htool), rfl⟩

theorem isNameText_toolNamesFor {id : String} :
    ∀ name ∈ b.toolNamesFor d id, IsNameText name := by
  intro name hname
  obtain ⟨tool, -, rfl⟩ := mem_toolNamesFor hname
  exact tool.value.isNameText_functionName d

/-- The declarations of all agents of a program. -/
def agentDeclarations (b : Blueprint) (d : Defaults) : List String :=
  b.agents.map fun agent => agent.value.declaration d (b.toolNamesFor d agent.id)

end Blueprint

namespace Workflow

variable {w : Workflow} {b : Blueprint} {d : Defaults}

theorem exists_isToolsLine_iff {lines names : List String}
    (h : lines.filter IsToolsLine = toolsLines names) :
    (∃ line ∈ lines, IsToolsLine line) ↔ names ≠ [] := by
  have hnone : lines.filter IsToolsLine = [] ↔ names = [] := by
    rw [h, toolsLines]
    by_cases hnames : names = [] <;> simp [hnames]
  rw [Ne, ← hnone, List.filter_eq_nil_iff]
  simp

/-- The declaration of an agent names the tools that edges hand to it. -/
theorem exists_declaration_toolEdges (hids : w.DistinctIds) (hreadable : w.Readable)
    (hb : w.blueprint = .ok b) {agent : Node} (hagent : agent ∈ w.nodesOfKind .agent) {a : Agent}
    (ha : agent.attributes = .ok (.agent a)) {text : String}
    (htext : text = a.declaration d (b.toolNamesFor d agent.id)) :
    ((∃ line ∈ Text.lines text, IsToolsLine line) ↔
      ∃ edge ∈ w.edges, edge.target = agent.id ∧ w.role? edge = some .tool) ∧
    ∃ a names, agent.attributes = .ok (.agent a) ∧
      List.Forall₂ (w.Hands d) (w.toolEdges agent.id) names ∧
      text = a.declaration d names.eraseDups ∧
      (Text.lines text).filter IsToolsLine = toolsLines names.eraseDups := by
  obtain ⟨names, hhands, hnames⟩ := exists_names_of_toolEdges (d := d) hids hreadable hb hagent
  have hfilter : (Text.lines text).filter IsToolsLine = toolsLines names.eraseDups := by
    rw [htext, a.lines_declaration d Blueprint.isNameText_toolNamesFor, a.filter_lines, hnames]
  refine ⟨?_, a, names, ha, hhands, hnames ▸ htext, hfilter⟩
  -- names come from edges, so there are none exactly if there are no such edges
  have hempty : names.eraseDups = [] ↔ w.toolEdges agent.id = [] := by
    cases hedges : w.toolEdges agent.id <;> rw [hedges] at hhands <;> cases hhands
    · simp
    · simp [List.eraseDups_cons]
  rw [exists_isToolsLine_iff hfilter, Ne, hempty, toolEdges, List.filter_eq_nil_iff]
  simp

/-- Where ids are distinct and all attributes can be read, the agents of a program are declared in
node order. A declaration names tools if and only if some edge that leads to its agent plays the
role of a tool. It then names, in the order of these edges and each name once, the functions of the
tools that they come from, and nothing else. -/
theorem generate_toolEdges (d : Defaults) {w : Workflow} (hids : w.DistinctIds)
    (hreadable : w.Readable) : ∃ b g, w.blueprint = .ok b ∧ w.generate d = .ok g ∧
      g.code = joinParts ((b.presentParts d).map (b.part d)) ∧
      (.agents ∈ b.presentParts d ↔ ∃ node ∈ w.nodes, node.kind = .agent) ∧
      b.part d .agents = joinParts (b.agentDeclarations d) ∧
      List.Forall₂ (fun agent text =>
        ((∃ line ∈ Text.lines text, IsToolsLine line) ↔
          ∃ edge ∈ w.edges, edge.target = agent.id ∧ w.role? edge = some .tool) ∧
        ∃ a names, agent.attributes = .ok (.agent a) ∧
          List.Forall₂ (w.Hands d) (w.toolEdges agent.id) names ∧
          text = a.declaration d names.eraseDups ∧
          (Text.lines text).filter IsToolsLine = toolsLines names.eraseDups)
        (w.nodesOfKind .agent) (b.agentDeclarations d) := by
  obtain ⟨g, hg⟩ := exists_generate_eq_ok_iff (d := d).mpr hreadable
  obtain ⟨_, b, -, hb, rfl⟩ := generate_eq_ok_iff.mp hg
  have hpresent : .agents ∈ b.presentParts d ↔ ∃ node ∈ w.nodes, node.kind = .agent :=
    Blueprint.mem_presentParts_agents_iff.trans (agents_ne_nil_iff hb)
  refine ⟨b, _, hb, hg, b.code_eq_joinParts d, hpresent, rfl, ?_⟩
  rw [Blueprint.agentDeclarations, List.forall₂_map_right_iff]
  have hagents := (List.forall₂_and_left (w.nodesOfKind .agent) b.agents).mpr
    ⟨fun agent hagent => hagent, forall₂_agents hb⟩
  refine hagents.imp fun agent declared hread => ?_
  obtain ⟨hagent, hid, hattributes⟩ := hread
  exact exists_declaration_toolEdges hids hreadable hb hagent hattributes (by rw [hid])

/-- Two tools of one name and a third one, an agent that is connected with all of them and one that
is not. Some edges repeat another one, lead back, hand over, or connect what cannot be connected. -/
def toolbox : Workflow where
  nodes := [⟨"t", .tool, ⟨.zero, .zero⟩, .obj [("name", .str "look")]⟩,
    ⟨"a", .agent, ⟨.zero, .zero⟩, .obj [("name", .str "Ann")]⟩,
    ⟨"u", .tool, ⟨.zero, .zero⟩, .obj [("name", .str "look")]⟩,
    ⟨"v", .tool, ⟨.zero, .zero⟩, .obj [("name", .str "leap")]⟩,
    ⟨"b", .agent, ⟨.zero, .zero⟩, .obj [("name", .str "Ben")]⟩,
    ⟨"r", .runner, ⟨.zero, .zero⟩, .obj []⟩]
  edges := [⟨"1", "u", "a"⟩, ⟨"2", "a", "a"⟩, ⟨"3", "v", "a"⟩, ⟨"4", "t", "a"⟩, ⟨"5", "v", "a"⟩,
    ⟨"6", "a", "b"⟩, ⟨"7", "b", "t"⟩, ⟨"8", "x", "b"⟩, ⟨"9", "r", "b"⟩, ⟨"10", "v", "r"⟩]

theorem readable_toolbox : toolbox.Readable := by
  simp only [Readable, toolbox, List.forall_mem_cons]
  exact ⟨⟨_, rfl⟩, ⟨_, rfl⟩, ⟨_, rfl⟩, ⟨_, rfl⟩, ⟨_, rfl⟩, ⟨_, rfl⟩, List.forall_mem_nil _⟩

/-- The first agent of the toolbox has two tools and the second one has none. -/
theorem generate_toolEdges_toolbox : toolbox.DistinctIds ∧ toolbox.Readable ∧
    ∃ b ann ben, toolbox.blueprint = .ok b ∧ b.agentDeclarations .builtIn = [ann, ben] ∧
      (Text.lines ann).filter IsToolsLine = ["    tools=[look, leap],"] ∧
      ¬∃ line ∈ Text.lines ben, IsToolsLine line := by
  have hids : toolbox.DistinctIds := by
    change ["t", "a", "u", "v", "b", "r"].Nodup
    decide
  refine ⟨hids, readable_toolbox, ?_⟩
  obtain ⟨b, _, hb, -, -, -, -, hall⟩ := generate_toolEdges .builtIn hids readable_toolbox
  have hagents : toolbox.nodesOfKind .agent =
      [⟨"a", .agent, ⟨.zero, .zero⟩, .obj [("name", .str "Ann")]⟩,
        ⟨"b", .agent, ⟨.zero, .zero⟩, .obj [("name", .str "Ben")]⟩] := rfl
  rw [hagents] at hall
  generalize htexts : b.agentDeclarations .builtIn = texts at hall
  obtain - | ⟨hann, - | ⟨hben, ⟨⟩⟩⟩ := hall
  refine ⟨b, _, _, hb, htexts, ?_, ?_⟩
  · obtain ⟨-, _, names, -, hnames, -, hfilter⟩ := hann
    have hedges : toolbox.toolEdges "a" =
        [⟨"1", "u", "a"⟩, ⟨"3", "v", "a"⟩, ⟨"4", "t", "a"⟩, ⟨"5", "v", "a"⟩] := rfl
    -- the name that an edge hands over is read off the tool it comes from
    have hname {edge : Edge} {name : String} (h : toolbox.Hands .builtIn edge name) :
        name = if edge.source = "v" then "leap" else "look" := by
      obtain ⟨source, t, hsource, hattributes, rfl⟩ := h
      obtain ⟨hmem, hid⟩ := mem_and_id_of_node? hsource
      simp only [toolbox, List.mem_cons, List.not_mem_nil, or_false] at hmem
      rw [← hid]
      rcases hmem with rfl | rfl | rfl | rfl | rfl | rfl <;> cases hattributes <;> rfl
    rw [hedges] at hnames
    obtain - | ⟨h₁, - | ⟨h₂, - | ⟨h₃, - | ⟨h₄, ⟨⟩⟩⟩⟩⟩ := hnames
    rw [hfilter, hname h₁, hname h₂, hname h₃, hname h₄]
    rfl
  · rw [hben.1]
    decide

end Workflow

end AgentCanvas
