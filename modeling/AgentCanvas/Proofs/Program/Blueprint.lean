import AgentCanvas.Proofs.Program.Failure

/-!
# What blueprints hold

A blueprint that can be drawn up holds what is read from the nodes, kind by kind and in node order.

## Key definitions

- `Node.view`: what a program knows of a node.

## Key results

- `Workflow.blueprint_eq_ok_iff`: what a blueprint holds.
- `Workflow.generate_eq_ok_iff`: the program is that of the blueprint.
-/

namespace AgentCanvas

theorem Node.identify_eq_ok_iff {α : Type} {read : Node → Except Rejection α} {node : Node}
    {found : Identified α} :
    node.identify read = .ok found ↔ node.id = found.id ∧ read node = .ok found.value := by
  obtain ⟨id, value⟩ := found
  simp only [identify, Except.bind_eq_ok_iff, pure, Except.pure, Except.ok.injEq,
    Identified.mk.injEq]
  constructor
  · rintro ⟨_, hread, hid, rfl⟩
    exact ⟨hid, hread⟩
  · rintro ⟨hid, hread⟩
    exact ⟨value, hread, hid, rfl⟩

/-- What a program knows of a node. -/
def Node.view (node : Node) : String × Except Rejection Attributes :=
  (node.id, node.attributes)

namespace Workflow

variable {w : Workflow} {b : Blueprint} {d : Defaults}

/-- Workflows whose nodes are related one by one have related active runners. -/
theorem forall₂_activeRunners {v : Workflow} {R : Node → Node → Prop}
    (h : List.Forall₂ R w.nodes v.nodes)
    (hkind : ∀ node other, R node other → node.kind = other.kind) :
    List.Forall₂ R w.activeRunners v.activeRunners := by
  unfold activeRunners
  rw [(forall₂_nodesOfKind h hkind .agent).isEmpty_eq]
  split
  · exact .nil
  · exact forall₂_nodesOfKind h hkind .runner

/-- A blueprint holds what is read from the nodes of each kind, in order, and the connections. -/
theorem blueprint_eq_ok_iff : w.blueprint = .ok b ↔
    (w.nodesOfKind .agent).map Node.view = b.agents.map (fun a => (a.id, .ok (.agent a.value))) ∧
    (w.nodesOfKind .tool).map Node.view = b.tools.map (fun t => (t.id, .ok (.tool t.value))) ∧
    w.activeRunners.map Node.attributes = b.runners.map (fun r => .ok (.runner r)) ∧
    b.connections = Connections.ofEdges w.edges := by
  rw [← Except.mapM_eq_ok_iff (f := Node.identify Node.asAgent),
    ← Except.mapM_eq_ok_iff (f := Node.identify Node.asTool),
    ← Except.mapM_eq_ok_iff (f := Node.asRunner)]
  · obtain ⟨agents, runners, tools, connections⟩ := b
    simp only [blueprint, Except.bind_eq_ok_iff, pure, Except.pure, Except.ok.injEq,
      Blueprint.mk.injEq]
    constructor
    · rintro ⟨_, hagents, _, htools, _, hrunners, rfl, rfl, rfl, hconnections⟩
      exact ⟨hagents, htools, hrunners, hconnections.symm⟩
    · rintro ⟨hagents, htools, hrunners, hconnections⟩
      exact ⟨agents, hagents, tools, htools, runners, hrunners, rfl, rfl, rfl, hconnections.symm⟩
  · intro node hnode r
    rw [Node.attributes_eq_runner_iff (mem_nodesOfKind.mp (mem_activeRunners.mp hnode).1).2]
  · intro node hnode t
    rw [Node.identify_eq_ok_iff, Node.view, Prod.mk.injEq,
      Node.attributes_eq_tool_iff (mem_nodesOfKind.mp hnode).2]
  · intro node hnode a
    rw [Node.identify_eq_ok_iff, Node.view, Prod.mk.injEq,
      Node.attributes_eq_agent_iff (mem_nodesOfKind.mp hnode).2]

/-- Something is read from the nodes of a kind exactly if there is a node of the kind. -/
theorem ne_nil_iff_of_ids {α : Type} {kind : NodeKind} {found : List (Identified α)}
    (h : (w.nodesOfKind kind).map (·.id) = found.map (·.id)) :
    found ≠ [] ↔ ∃ node ∈ w.nodes, node.kind = kind := by
  have hnil : found = [] ↔ w.nodesOfKind kind = [] := by
    rw [← List.map_eq_nil_iff (f := (·.id)), ← h, List.map_eq_nil_iff]
  rw [ne_eq, hnil]
  exact nodesOfKind_ne_nil_iff

section

variable (hb : w.blueprint = .ok b)
include hb

/-- The agents of a blueprint are read from the agents of the workflow, one by one. -/
theorem forall₂_agents : List.Forall₂
    (fun node agent => node.id = agent.id ∧ node.attributes = .ok (.agent agent.value))
    (w.nodesOfKind .agent) b.agents := by
  obtain ⟨hagents, -, -, -⟩ := blueprint_eq_ok_iff.mp hb
  rw [← List.forall₂_eq_eq_eq, List.forall₂_map_map_iff] at hagents
  exact hagents.imp fun _ _ hview => Prod.mk.inj hview

theorem ids_agents : (w.nodesOfKind .agent).map (·.id) = b.agents.map (·.id) := by
  obtain ⟨hagents, -, -, -⟩ := blueprint_eq_ok_iff.mp hb
  simpa [Node.view, Function.comp_def] using congrArg (List.map Prod.fst) hagents

/-- A blueprint has agents exactly if the workflow has. -/
theorem agents_ne_nil_iff : b.agents ≠ [] ↔ ∃ node ∈ w.nodes, node.kind = .agent :=
  ne_nil_iff_of_ids (ids_agents hb)

theorem attributes_agents : (w.nodesOfKind .agent).map Node.attributes =
    (b.agents.map (·.value)).map fun agent => .ok (.agent agent) := by
  obtain ⟨hagents, -, -, -⟩ := blueprint_eq_ok_iff.mp hb
  simpa [Node.view, Function.comp_def] using congrArg (List.map Prod.snd) hagents

theorem ids_tools : (w.nodesOfKind .tool).map (·.id) = b.tools.map (·.id) := by
  obtain ⟨-, htools, -, -⟩ := blueprint_eq_ok_iff.mp hb
  simpa [Node.view, Function.comp_def] using congrArg (List.map Prod.fst) htools

/-- A blueprint has tools exactly if the workflow has. -/
theorem tools_ne_nil_iff : b.tools ≠ [] ↔ ∃ node ∈ w.nodes, node.kind = .tool :=
  ne_nil_iff_of_ids (ids_tools hb)

theorem attributes_tools : (w.nodesOfKind .tool).map Node.attributes =
    (b.tools.map (·.value)).map fun tool => .ok (.tool tool) := by
  obtain ⟨-, htools, -, -⟩ := blueprint_eq_ok_iff.mp hb
  simpa [Node.view, Function.comp_def] using congrArg (List.map Prod.snd) htools

end

/-- What two blueprints hold is related one by one if the attributes of the nodes are; the relation
may depend on the id. -/
theorem forall₂_blueprint {v : Workflow} {c : Blueprint}
    {S : String → Attributes → Attributes → Prop}
    (h : List.Forall₂ (fun node other => node.id = other.id ∧ node.kind = other.kind ∧
      ∃ x y, node.attributes = .ok x ∧ other.attributes = .ok y ∧ S node.id x y) w.nodes v.nodes)
    (hb : w.blueprint = .ok b) (hc : v.blueprint = .ok c) :
    List.Forall₂ (fun a o => a.id = o.id ∧ S a.id (.agent a.value) (.agent o.value))
      b.agents c.agents ∧
    List.Forall₂ (fun t u => t.id = u.id ∧ S t.id (.tool t.value) (.tool u.value))
      b.tools c.tools ∧
    List.Forall₂ (fun r o => ∃ id, S id (.runner r) (.runner o)) b.runners c.runners := by
  obtain ⟨hagents, htools, hrunners, -⟩ := blueprint_eq_ok_iff.mp hb
  obtain ⟨hagents', htools', hrunners', -⟩ := blueprint_eq_ok_iff.mp hc
  have hviews (kind : NodeKind) : List.Forall₂
      (fun p q => p.1 = q.1 ∧ ∃ x y, p.2 = .ok x ∧ q.2 = .ok y ∧ S p.1 x y)
      ((w.nodesOfKind kind).map Node.view) ((v.nodesOfKind kind).map Node.view) := by
    rw [List.forall₂_map_map_iff]
    exact (forall₂_nodesOfKind h (fun _ _ hnode => hnode.2.1) kind).imp
      fun _ _ hnode => ⟨hnode.1, hnode.2.2⟩
  refine ⟨?_, ?_, ?_⟩
  · have hviews := hviews .agent
    rw [hagents, hagents', List.forall₂_map_map_iff] at hviews
    refine hviews.imp fun agent other hagent => ?_
    obtain ⟨hid, _, _, ha, ho, hsame⟩ := hagent
    cases ha
    cases ho
    exact ⟨hid, hsame⟩
  · have hviews := hviews .tool
    rw [htools, htools', List.forall₂_map_map_iff] at hviews
    refine hviews.imp fun tool other htool => ?_
    obtain ⟨hid, _, _, ht, hu, hsame⟩ := htool
    cases ht
    cases hu
    exact ⟨hid, hsame⟩
  -- runners have no id in the blueprint, so they are related for some id
  · have hattributes : List.Forall₂
        (fun p q => ∃ x y, p = .ok x ∧ q = .ok y ∧ ∃ id, S id x y)
        (w.activeRunners.map Node.attributes) (v.activeRunners.map Node.attributes) := by
      rw [List.forall₂_map_map_iff]
      refine (forall₂_activeRunners h fun _ _ hnode => hnode.2.1).imp fun node _ hnode => ?_
      obtain ⟨-, -, x, y, hx, hy, hsame⟩ := hnode
      exact ⟨x, y, hx, hy, node.id, hsame⟩
    rw [hrunners, hrunners', List.forall₂_map_map_iff] at hattributes
    refine hattributes.imp fun runner other hrunner => ?_
    obtain ⟨_, _, hr, ho, hsame⟩ := hrunner
    cases hr
    cases ho
    exact hsame

/-- A generated program is that of the blueprint. -/
theorem generate_eq_ok_iff {g : Generation} : w.generate d = .ok g ↔
    ∃ diagnostics b, w.diagnose = .ok diagnostics ∧ w.blueprint = .ok b ∧
      g = ⟨b.code d, diagnostics.map (·.message), [], dependencies⟩ := by
  simp only [generate, Except.bind_eq_ok_iff, pure, Except.pure, Except.ok.injEq]
  constructor
  · rintro ⟨diagnostics, hdiagnostics, b, hb, rfl⟩
    exact ⟨diagnostics, b, hdiagnostics, hb, rfl⟩
  · rintro ⟨diagnostics, b, hdiagnostics, hb, rfl⟩
    exact ⟨diagnostics, hdiagnostics, b, hb, rfl⟩

end Workflow

end AgentCanvas
