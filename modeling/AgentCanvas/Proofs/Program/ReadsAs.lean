import AgentCanvas.Proofs.Program.Blueprint

/-!
# Workflows that read alike

Diagnosing a workflow and generating its program look at the ids and kinds of nodes, at the
attributes that can be read from them and at the edges. Two workflows with the same of these have
the same diagnostics and the same program, whatever else their nodes hold. Diagnosing does not even
look at the attributes of tools.

## Key definitions

- `Node.DiagnosedAs`, `Workflow.DiagnosedAs`: nodes and workflows that are diagnosed alike.
- `Node.ReadsAs`, `Workflow.ReadsAs`: nodes and workflows that read alike.

## Key results

- `Workflow.DiagnosedAs.diagnose_eq`: the diagnostics of workflows that are diagnosed alike.
- `Workflow.ReadsAs.map_edgeDocument_eq`: edges of workflows that read alike are saved alike.
- `Workflow.ReadsAs.generate_eq`: workflows that read alike have the same program.
-/

namespace AgentCanvas

/-- Two nodes with the same id and kind, and the same attributes unless they are tools. -/
structure Node.DiagnosedAs (node other : Node) : Prop where
  id : node.id = other.id
  kind : node.kind = other.kind
  attributes : node.kind ≠ .tool → node.attributes = other.attributes

/-- Two workflows with the same edges whose nodes are diagnosed alike in order. -/
structure Workflow.DiagnosedAs (w v : Workflow) : Prop where
  nodes : List.Forall₂ Node.DiagnosedAs w.nodes v.nodes
  edges : w.edges = v.edges

/-- Two nodes with the same id, kind and attributes. -/
structure Node.ReadsAs (node other : Node) : Prop where
  id : node.id = other.id
  kind : node.kind = other.kind
  attributes : node.attributes = other.attributes

/-- Two workflows with the same edges whose nodes read alike in order. -/
structure Workflow.ReadsAs (w v : Workflow) : Prop where
  nodes : List.Forall₂ Node.ReadsAs w.nodes v.nodes
  edges : w.edges = v.edges

namespace Node

variable {node other : Node}

private theorem map_injective {α : Type} {f : α → Attributes} (hf : Function.Injective f)
    {x y : Except Rejection α} (h : x.map f = y.map f) : x = y := by
  cases x <;> cases y <;> simp_all [Except.map, hf.eq_iff]

theorem ReadsAs.diagnosedAs (h : node.ReadsAs other) : node.DiagnosedAs other :=
  ⟨h.id, h.kind, fun _ => h.attributes⟩

theorem DiagnosedAs.asAgent_eq (h : node.DiagnosedAs other) (hkind : node.kind = .agent) :
    node.asAgent = other.asAgent := by
  have hattributes := h.attributes (by simp [hkind])
  rw [attributes_of_agent hkind, attributes_of_agent (h.kind ▸ hkind)] at hattributes
  exact map_injective (fun _ _ => Attributes.agent.inj) hattributes

theorem DiagnosedAs.asRunner_eq (h : node.DiagnosedAs other) (hkind : node.kind = .runner) :
    node.asRunner = other.asRunner := by
  have hattributes := h.attributes (by simp [hkind])
  rw [attributes_of_runner hkind, attributes_of_runner (h.kind ▸ hkind)] at hattributes
  exact map_injective (fun _ _ => Attributes.runner.inj) hattributes

theorem ReadsAs.asTool_eq (h : node.ReadsAs other) (hkind : node.kind = .tool) :
    node.asTool = other.asTool := by
  have hattributes := h.attributes
  rw [attributes_of_tool hkind, attributes_of_tool (h.kind ▸ hkind)] at hattributes
  exact map_injective (fun _ _ => Attributes.tool.inj) hattributes

end Node

namespace Workflow.DiagnosedAs

variable {w v : Workflow}

theorem node? (h : w.DiagnosedAs v) (id : String) :
    (w.node? id = none ∧ v.node? id = none) ∨
      ∃ node other, w.node? id = some node ∧ v.node? id = some other ∧ node.DiagnosedAs other :=
  h.nodes.find? fun node other hnode => by rw [hnode.id]

/-- The nodes of a kind are diagnosed alike, and they are of the kind. -/
theorem nodesOfKind (h : w.DiagnosedAs v) (kind : NodeKind) :
    List.Forall₂ (fun node other => node.kind = kind ∧ node.DiagnosedAs other)
      (w.nodesOfKind kind) (v.nodesOfKind kind) :=
  forall₂_kind_nodesOfKind h.nodes (fun _ _ hnode => hnode.kind) kind

theorem roleBetween_eq (h : w.DiagnosedAs v) (source target : String) :
    w.roleBetween source target = v.roleBetween source target := by
  unfold roleBetween
  obtain ⟨hws, hvs⟩ | ⟨s, s', hws, hvs, hs⟩ := h.node? source
  · simp only [hws, hvs]
  · obtain ⟨hwt, hvt⟩ | ⟨t, t', hwt, hvt, ht⟩ := h.node? target
    · simp only [hws, hvs, hwt, hvt]
    · simp only [hws, hvs, hwt, hvt, hs.id, hs.kind, ht.id, ht.kind]

theorem isFed_eq (h : w.DiagnosedAs v) (id : String) : w.isFed id = v.isFed id := by
  unfold isFed incoming
  rw [h.edges]
  congr 1
  funext edge
  obtain ⟨hw, hv⟩ | ⟨s, s', hw, hv, hs⟩ := h.node? edge.source
  · simp only [hw, hv]
  · simp only [hw, hv, hs.kind]

/-! ## Diagnostics -/

theorem presenceDiagnostics_eq (h : w.DiagnosedAs v) :
    w.presenceDiagnostics = v.presenceDiagnostics := by
  unfold presenceDiagnostics
  rw [(h.nodesOfKind .agent).isEmpty_eq, (h.nodesOfKind .runner).isEmpty_eq]

theorem edgeDiagnostics_eq (h : w.DiagnosedAs v) (edge : Edge) :
    w.edgeDiagnostics edge = v.edgeDiagnostics edge := by
  have hrole : w.role? edge = v.role? edge := h.roleBetween_eq edge.source edge.target
  unfold edgeDiagnostics
  -- either end is missing from both workflows or found in both
  obtain ⟨hws, hvs⟩ | ⟨s, s', hws, hvs, hs⟩ := h.node? edge.source <;>
    obtain ⟨hwt, hvt⟩ | ⟨t, t', hwt, hvt, ht⟩ := h.node? edge.target
  · simp only [hws, hvs, hwt, hvt]
  · simp only [hws, hvs, hwt, hvt]
  · simp only [hws, hvs, hwt, hvt]
  · simp only [hws, hvs, hwt, hvt, hrole, hs.kind, ht.kind]

/-- The runners that no agent feeds are diagnosed alike. -/
theorem mapM_unconnected_eq (h : w.DiagnosedAs v) :
    w.unfedRunners.mapM unconnected = v.unfedRunners.mapM unconnected := by
  apply Except.mapM_congr_forall₂
  refine ((h.nodesOfKind .runner).filter fun node other hnode => ?_).imp fun node other hnode => ?_
  · rw [h.isFed_eq, hnode.2.id]
  · rw [unconnected, unconnected, hnode.2.asRunner_eq hnode.1, hnode.2.id]

theorem agentNames_eq (h : w.DiagnosedAs v) : w.agentNames = v.agentNames := by
  unfold agentNames
  rw [Except.mapM_congr_forall₂ ((h.nodesOfKind .agent).imp fun _ _ hnode =>
    hnode.2.asAgent_eq hnode.1)]

theorem diagnose_eq (h : w.DiagnosedAs v) : w.diagnose = v.diagnose := by
  unfold diagnose
  rw [h.nodes.isEmpty_eq, h.mapM_unconnected_eq, h.agentNames_eq, h.presenceDiagnostics_eq, h.edges,
    funext h.edgeDiagnostics_eq]

end Workflow.DiagnosedAs

namespace Workflow.ReadsAs

variable {w v : Workflow}

theorem diagnosedAs (h : w.ReadsAs v) : w.DiagnosedAs v :=
  ⟨h.nodes.imp fun _ _ hnode => hnode.diagnosedAs, h.edges⟩

/-- Edges are saved with their roles, which are found through the nodes. -/
theorem map_edgeDocument_eq (h : w.ReadsAs v) :
    w.edges.map w.edgeDocument = v.edges.map v.edgeDocument := by
  rw [h.edges]
  apply List.map_congr_left
  intro edge _
  rw [edgeDocument, edgeDocument, role?, role?, h.diagnosedAs.roleBetween_eq]

/-! ## Programs -/

/-- The nodes of a kind read alike, and they are of the kind. -/
theorem nodesOfKind (h : w.ReadsAs v) (kind : NodeKind) :
    List.Forall₂ (fun node other => node.kind = kind ∧ node.ReadsAs other)
      (w.nodesOfKind kind) (v.nodesOfKind kind) :=
  forall₂_kind_nodesOfKind h.nodes (fun _ _ hnode => hnode.kind) kind

theorem activeRunners (h : w.ReadsAs v) :
    List.Forall₂ (fun node other => node.kind = .runner ∧ node.ReadsAs other)
      w.activeRunners v.activeRunners :=
  (List.forall₂_and_left _ _).mpr
    ⟨fun _ hnode => (mem_nodesOfKind.mp (mem_activeRunners.mp hnode).1).2,
      forall₂_activeRunners h.nodes fun _ _ hnode => hnode.kind⟩

theorem blueprint_eq (h : w.ReadsAs v) : w.blueprint = v.blueprint := by
  have hagents : (w.nodesOfKind .agent).mapM (Node.identify Node.asAgent) =
      (v.nodesOfKind .agent).mapM (Node.identify Node.asAgent) :=
    Except.mapM_congr_forall₂ ((h.nodesOfKind .agent).imp fun node other hnode => by
      rw [Node.identify, Node.identify, hnode.2.diagnosedAs.asAgent_eq hnode.1, hnode.2.id])
  have htools : (w.nodesOfKind .tool).mapM (Node.identify Node.asTool) =
      (v.nodesOfKind .tool).mapM (Node.identify Node.asTool) :=
    Except.mapM_congr_forall₂ ((h.nodesOfKind .tool).imp fun node other hnode => by
      rw [Node.identify, Node.identify, hnode.2.asTool_eq hnode.1, hnode.2.id])
  have hrunners : w.activeRunners.mapM Node.asRunner = v.activeRunners.mapM Node.asRunner :=
    Except.mapM_congr_forall₂ (h.activeRunners.imp fun node other hnode =>
      hnode.2.diagnosedAs.asRunner_eq hnode.1)
  unfold blueprint
  rw [hagents, htools, hrunners, h.edges]

/-- Workflows that read alike have the same program with the same diagnostics. -/
theorem generate_eq (h : w.ReadsAs v) (d : Defaults) : w.generate d = v.generate d := by
  rw [generate, generate, h.diagnosedAs.diagnose_eq, h.blueprint_eq]

end Workflow.ReadsAs

end AgentCanvas
