import AgentCanvas.Graph.Workflow
import AgentCanvas.Proofs.Schema.Checked

/-!
# Reading the attributes of nodes

A node can be read as what its kind says, and by the reader of that kind only. The three readers
fail for the same reason as the reader of any kind.

## Key definitions

- `Node.Readable`, `Workflow.Readable`: attributes that can be read.
- `Node.rejection?`: why they cannot.

## Key results

- `Node.attributes_of_agent`, `Node.attributes_of_runner`, `Node.attributes_of_tool`: a node is read
  by the reader of its kind.
- `Node.failure?_asAgent`, `Node.failure?_asRunner`, `Node.failure?_asTool`: readers of one kind
  fail as `Node.attributes` does.
-/

namespace AgentCanvas

/-- A value may be changed before or after its issues are turned into a rejection. -/
theorem Checked.orReject_map {α β : Type} (f : α → β) (x : Checked α) (shape : Shape) :
    (x.map f).orReject shape = (x.orReject shape).map f := by
  cases x <;> rfl

/-- The kind of nodes that have such attributes. -/
def Attributes.kind : Attributes → NodeKind
  | agent _ => .agent
  | runner _ => .runner
  | tool _ => .tool

namespace Node

variable {node : Node}

/-- The attributes of a node can be read. -/
def Readable (node : Node) : Prop :=
  ∃ attributes, node.attributes = .ok attributes

/-- Why the attributes of a node cannot be read, if they cannot. -/
def rejection? (node : Node) : Option Rejection :=
  node.attributes.failure?

theorem rejection?_eq_none_iff : node.rejection? = none ↔ node.Readable :=
  Except.failure?_eq_none_iff

theorem rejection?_eq_some_iff {r : Rejection} :
    node.rejection? = some r ↔ node.attributes = .error r :=
  Except.failure?_eq_some_iff

/-- A node is readable exactly if its stored attributes pass the check of its kind. -/
theorem readable_iff : node.Readable ↔ ∃ a, Attributes.check node.kind node.data = .valid a := by
  simp [Readable, attributes]

/-! ## Readers of one kind -/

theorem attributes_of_agent (h : node.kind = .agent) :
    node.attributes = node.asAgent.map .agent := by
  rw [attributes, h]
  exact Checked.orReject_map _ _ _

theorem attributes_of_runner (h : node.kind = .runner) :
    node.attributes = node.asRunner.map .runner := by
  rw [attributes, h]
  exact Checked.orReject_map _ _ _

theorem attributes_of_tool (h : node.kind = .tool) :
    node.attributes = node.asTool.map .tool := by
  rw [attributes, h]
  exact Checked.orReject_map _ _ _

theorem attributes_eq_agent_iff (h : node.kind = .agent) {a : Agent} :
    node.attributes = .ok (.agent a) ↔ node.asAgent = .ok a := by
  rw [attributes_of_agent h]
  cases node.asAgent <;> simp [Except.map]

theorem attributes_eq_runner_iff (h : node.kind = .runner) {r : Runner} :
    node.attributes = .ok (.runner r) ↔ node.asRunner = .ok r := by
  rw [attributes_of_runner h]
  cases node.asRunner <;> simp [Except.map]

theorem attributes_eq_tool_iff (h : node.kind = .tool) {t : Tool} :
    node.attributes = .ok (.tool t) ↔ node.asTool = .ok t := by
  rw [attributes_of_tool h]
  cases node.asTool <;> simp [Except.map]

/-- Attributes are those of the kind of the node that they are read from. -/
theorem kind_of_attributes {a : Attributes} (h : node.attributes = .ok a) :
    node.kind = a.kind := by
  cases hkind : node.kind with
  | agent =>
    rw [attributes_of_agent hkind] at h
    cases hread : node.asAgent with
    | ok agent => rw [hread] at h; cases h; rfl
    | error r => rw [hread] at h; cases h
  | runner =>
    rw [attributes_of_runner hkind] at h
    cases hread : node.asRunner with
    | ok runner => rw [hread] at h; cases h; rfl
    | error r => rw [hread] at h; cases h
  | tool =>
    rw [attributes_of_tool hkind] at h
    cases hread : node.asTool with
    | ok tool => rw [hread] at h; cases h; rfl
    | error r => rw [hread] at h; cases h

/-- What can be read from a tool are the attributes of a tool. -/
theorem Readable.exists_tool (hreadable : node.Readable) (h : node.kind = .tool) :
    ∃ t, node.attributes = .ok (.tool t) := by
  obtain ⟨attributes, hattributes⟩ := hreadable
  rw [attributes_of_tool h] at hattributes ⊢
  cases hread : node.asTool with
  | ok t => exact ⟨t, rfl⟩
  | error r => simp [hread, Except.map] at hattributes

theorem failure?_asAgent (h : node.kind = .agent) : node.asAgent.failure? = node.rejection? := by
  rw [rejection?, attributes_of_agent h, Except.failure?_map]

theorem failure?_asRunner (h : node.kind = .runner) :
    node.asRunner.failure? = node.rejection? := by
  rw [rejection?, attributes_of_runner h, Except.failure?_map]

theorem failure?_asTool (h : node.kind = .tool) : node.asTool.failure? = node.rejection? := by
  rw [rejection?, attributes_of_tool h, Except.failure?_map]

end Node

/-- The attributes of all nodes of a workflow can be read. -/
def Workflow.Readable (w : Workflow) : Prop :=
  ∀ node ∈ w.nodes, node.Readable

namespace Workflow

variable {w : Workflow} {node : Node} {kind : NodeKind}

/-- The nodes of a kind are those nodes that have it. -/
theorem mem_nodesOfKind : node ∈ w.nodesOfKind kind ↔ node ∈ w.nodes ∧ node.kind = kind := by
  simp [nodesOfKind]

theorem nodesOfKind_ne_nil_iff :
    w.nodesOfKind kind ≠ [] ↔ ∃ node ∈ w.nodes, node.kind = kind := by
  rw [ne_eq, nodesOfKind, List.filter_eq_nil_iff]
  simp

/-- Workflows whose nodes are related one by one have related nodes of each kind. -/
theorem forall₂_nodesOfKind {v : Workflow} {R : Node → Node → Prop}
    (h : List.Forall₂ R w.nodes v.nodes)
    (hkind : ∀ node other, R node other → node.kind = other.kind)
    (kind : NodeKind) : List.Forall₂ R (w.nodesOfKind kind) (v.nodesOfKind kind) :=
  h.filter fun node other hnode => by rw [hkind node other hnode]

/-- The related nodes of a kind are of that kind. -/
theorem forall₂_kind_nodesOfKind {v : Workflow} {R : Node → Node → Prop}
    (h : List.Forall₂ R w.nodes v.nodes)
    (hkind : ∀ node other, R node other → node.kind = other.kind) (kind : NodeKind) :
    List.Forall₂ (fun node other => node.kind = kind ∧ R node other)
      (w.nodesOfKind kind) (v.nodesOfKind kind) :=
  (List.forall₂_and_left _ _).mpr ⟨fun _ hnode => (mem_nodesOfKind.mp hnode).2,
    forall₂_nodesOfKind h hkind kind⟩

end Workflow

end AgentCanvas
