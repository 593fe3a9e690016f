import AgentCanvas.Proofs.Program.Rendering

/-!
# Blanks

Defaults matter only where the workflow leaves something blank: a name or a return type that is
empty, the task of the first runner, and what no node can say, the model of the agents and the token
that ends a team's work. Which diagnostics a workflow has does not depend on defaults at all.

## Key definitions

- `Workflow.AgreeOnBlanks`: two defaults agree on what they put into the blanks of a workflow.

## Key results

- `Workflow.AgreeOnBlanks.rendersAs`: a blueprint is rendered alike under such defaults.
- `Workflow.generate_blanks`: so programs differ only where a blank is filled differently.
-/

namespace AgentCanvas

/-- Fillings matter only where there is a blank. -/
theorem orElse_eq_orElse {text other another : String} (h : text = "" → other = another) :
    orElse text other = orElse text another := by
  unfold orElse
  split
  next hempty => exact h hempty
  next => rfl

namespace Workflow

/-- Two defaults agree on what they put into the blanks of a workflow. -/
structure AgreeOnBlanks (w : Workflow) (d e : Defaults) : Prop where
  model : (∃ node ∈ w.nodes, node.kind = .agent) → d.model = e.model
  agentName : (∃ node ∈ w.nodes, ∃ a, node.attributes = .ok (.agent a) ∧ a.name = "") →
    d.agentName = e.agentName
  toolName : (∃ node ∈ w.nodes, ∃ t, node.attributes = .ok (.tool t) ∧ t.name = "") →
    d.toolName = e.toolName
  returnType : (∃ node ∈ w.nodes, ∃ t, node.attributes = .ok (.tool t) ∧ t.returnType = "") →
    d.returnType = e.returnType
  /-- The first runner, in node order, leaves its input blank. -/
  task : (∃ node ∈ w.nodes, node.kind = .agent) →
    (∃ first rest r, w.nodesOfKind .runner = first :: rest ∧ first.attributes = .ok (.runner r) ∧
      r.input = "") → d.task = e.task
  terminationToken : 2 ≤ (w.nodesOfKind .agent).length →
    (∃ node ∈ w.nodes, node.kind = .runner) → d.terminationToken = e.terminationToken

variable {w : Workflow} {b : Blueprint} {d e : Defaults}

namespace AgreeOnBlanks

variable (h : w.AgreeOnBlanks d e) (hb : w.blueprint = .ok b)
include h hb

theorem agent {agent : Identified Agent} (hagent : agent ∈ b.agents) :
    agent.value.RendersAs d e agent.value := by
  obtain ⟨node, hnode, -, hattributes⟩ := (forall₂_agents hb).exists_of_mem_right hagent
  have hname : agent.value.name = "" → d.agentName = e.agentName := fun hempty =>
    h.agentName ⟨node, (mem_nodesOfKind.mp hnode).1, _, hattributes, hempty⟩
  exact ⟨orElse_eq_orElse hname, rfl, rfl⟩

theorem tool {tool : Identified Tool} (htool : tool ∈ b.tools) :
    tool.value.RendersAs d e tool.value := by
  obtain ⟨node, hnode, -, hattributes⟩ := (mem_tools_iff hb).mp htool
  have hname : tool.value.name = "" → d.toolName = e.toolName := fun hempty =>
    h.toolName ⟨node, hnode, _, hattributes, hempty⟩
  have hreturn : tool.value.returnType = "" → d.returnType = e.returnType := fun hempty =>
    h.returnType ⟨node, hnode, _, hattributes, hempty⟩
  refine ⟨?_, rfl, orElse_eq_orElse hreturn, rfl⟩
  rw [Tool.functionName, Tool.functionName, orElse_eq_orElse hname]

/-- The runner whose task is run is the first one. -/
theorem entry : b.entry d = b.entry e := by
  obtain ⟨-, -, hrunners, -⟩ := blueprint_eq_ok_iff.mp hb
  have hidentifiers : b.identifiers d = b.identifiers e :=
    List.map_congr_left fun agent hagent => (h.agent hb hagent).identifier_eq
  rw [Blueprint.entry, Blueprint.entry]
  apply entryPoint_eq_entryPoint
  · simpa only [List.map_map, Function.comp_def, Blueprint.identifiers] using hidentifiers
  · intro hagents first hfirst
    have hagent := (agents_ne_nil_iff hb).mp (List.map_eq_nil_iff.not.mp hagents)
    obtain ⟨rest, hcons⟩ := List.head?_eq_some_iff.mp hfirst
    rw [activeRunners_eq_nodesOfKind (nodesOfKind_ne_nil_iff.mpr hagent), hcons, List.map_cons,
      List.map_eq_cons_iff] at hrunners
    obtain ⟨node, nodes, hnodes, hattributes, -⟩ := hrunners
    apply orElse_eq_orElse
    exact fun hempty => h.task hagent ⟨node, nodes, first, hnodes, hattributes, hempty⟩
  · intro hseveral hne
    rw [List.length_map, ← (forall₂_agents hb).length_eq] at hseveral
    have hactive : w.activeRunners ≠ [] := by
      rw [ne_eq, ← List.map_eq_nil_iff (f := Node.attributes), hrunners, List.map_eq_nil_iff]
      exact hne
    obtain ⟨node, hnode⟩ := List.exists_mem_of_ne_nil _ hactive
    obtain ⟨hmem, hkind⟩ := mem_nodesOfKind.mp (mem_activeRunners.mp hnode).1
    exact h.terminationToken hseveral ⟨node, hmem, hkind⟩

theorem rendersAs : b.RendersAs d e b where
  schemas := List.forall₂_same.mpr fun _ _ => rfl
  agents := List.forall₂_same.mpr fun _ hagent => ⟨rfl, h.agent hb hagent⟩
  tools := List.forall₂_same.mpr fun _ htool => ⟨rfl, h.tool hb htool⟩
  connections := rfl
  model hagents := h.model ((agents_ne_nil_iff hb).mp hagents)
  entry := h.entry hb

end AgreeOnBlanks

/-- Whatever the defaults are, a workflow whose attributes can be read has a program with the same
diagnostics, and under defaults that agree on its blanks the program is the same too. -/
theorem generate_blanks {w : Workflow} (hreadable : w.Readable) (d e : Defaults) :
    ∃ g g', w.generate d = .ok g ∧ w.generate e = .ok g' ∧ g.errors = g'.errors ∧
      g.warnings = g'.warnings ∧ (w.AgreeOnBlanks d e → g.code = g'.code) := by
  obtain ⟨g, hg⟩ := exists_generate_eq_ok_iff (d := d).mpr hreadable
  obtain ⟨g', hg'⟩ := exists_generate_eq_ok_iff (d := e).mpr hreadable
  refine ⟨g, g', hg, hg', ?_⟩
  obtain ⟨diagnostics, b, hdiagnostics, hb, rfl⟩ := generate_eq_ok_iff.mp hg
  obtain ⟨diagnostics', c, hdiagnostics', hc, rfl⟩ := generate_eq_ok_iff.mp hg'
  -- both are the diagnostics and the blueprint of one workflow
  cases hdiagnostics.symm.trans hdiagnostics'
  cases hb.symm.trans hc
  exact ⟨rfl, rfl, fun h => (h.rendersAs hb).code_eq⟩

/-- An agent and a tool that leave nothing blank but the name of the tool, and no runner. -/
def unnamedTool : Workflow where
  nodes := [⟨"a", .agent, ⟨.zero, .zero⟩, .obj [("name", .str "Ann")]⟩,
    ⟨"t", .tool, ⟨.zero, .zero⟩, .obj [("name", .str ""), ("returnType", .str "int")]⟩]
  edges := [⟨"e", "t", "a"⟩]

/-- Defaults that are not built in, save the model and the name of tools. -/
def otherDefaults : Defaults where
  model := Defaults.builtIn.model
  agentName := "nobody"
  task := "nothing"
  terminationToken := "never"
  toolName := Defaults.builtIn.toolName
  returnType := "None"

/-- The only blanks are the model of the agent and the name of the tool. -/
theorem generate_blanks_unnamedTool : unnamedTool.Readable ∧
    unnamedTool.AgreeOnBlanks Defaults.builtIn otherDefaults ∧
    ∃ g g', unnamedTool.generate Defaults.builtIn = .ok g ∧
      unnamedTool.generate otherDefaults = .ok g' ∧ g.code = g'.code := by
  have hreadable : unnamedTool.Readable := by
    simp only [Readable, unnamedTool, List.forall_mem_cons]
    exact ⟨⟨_, rfl⟩, ⟨_, rfl⟩, List.forall_mem_nil _⟩
  have hnodes {node : Node} (hnode : node ∈ unnamedTool.nodes) :
      node.attributes = .ok (.agent ⟨"Ann", "", "", .text, none⟩) ∨
        node.attributes = .ok (.tool ⟨"", [], "int", ""⟩) := by
    simp only [unnamedTool, List.mem_cons, List.not_mem_nil, or_false] at hnode
    rcases hnode with rfl | rfl
    · exact .inl rfl
    · exact .inr rfl
  have hagree : unnamedTool.AgreeOnBlanks Defaults.builtIn otherDefaults := by
    refine ⟨fun _ => rfl, ?_, fun _ => rfl, ?_, ?_, ?_⟩
    · rintro ⟨node, hnode, a, hattributes, hempty⟩
      rcases hnodes hnode with h | h <;> rw [h] at hattributes <;> cases hattributes
      exact absurd hempty (by decide)
    · rintro ⟨node, hnode, t, hattributes, hempty⟩
      rcases hnodes hnode with h | h <;> rw [h] at hattributes <;> cases hattributes
      exact absurd hempty (by decide)
    · rintro - ⟨first, rest, r, hrunners, -, -⟩
      cases hrunners
    · intro hseveral
      exact absurd hseveral (by decide)
  obtain ⟨g, g', hg, hg', -, -, hcode⟩ := generate_blanks hreadable Defaults.builtIn otherDefaults
  exact ⟨hreadable, hagree, g, g', hg, hg', hcode hagree⟩

end Workflow

end AgentCanvas
