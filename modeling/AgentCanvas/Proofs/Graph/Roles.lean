import AgentCanvas.Proofs.Graph.Document

/-!
# Ends and roles of edges

Which node is found under an id, and which ends an edge of each role has.

## Key results

- `Workflow.DistinctIds.node?_eq_some_iff`: where ids are distinct, every node is found under its
  id.
- `Workflow.role?_eq_some_iff`: an edge has a role exactly if its ends are two nodes of kinds that
  can be connected.
- `Workflow.role?_eq_tool_iff`, `Workflow.role?_eq_execute_iff`: edges of one role.
-/

namespace AgentCanvas

theorem EdgeRole.between_eq_tool_iff {source target : NodeKind} :
    between source target = some .tool ↔ source = .tool ∧ target = .agent := by
  cases source <;> cases target <;> decide

theorem EdgeRole.between_eq_execute_iff {source target : NodeKind} :
    between source target = some .execute ↔ source = .agent ∧ target = .runner := by
  cases source <;> cases target <;> decide

namespace Workflow

variable {w : Workflow} {edge : Edge}

/-! ## Nodes by id -/

/-- What is found under an id has the id. -/
theorem mem_and_id_of_node? {id : String} {node : Node} (h : w.node? id = some node) :
    node ∈ w.nodes ∧ node.id = id := by
  unfold node? at h
  exact ⟨List.mem_of_find?_eq_some h, by simpa using List.find?_some h⟩

/-- Where ids are distinct, every node is found under its id. -/
theorem DistinctIds.node?_eq_some_iff (h : w.DistinctIds) {id : String} {node : Node} :
    w.node? id = some node ↔ node ∈ w.nodes ∧ node.id = id :=
  List.find?_eq_some_iff_of_nodup_map h

/-! ## Roles -/

/-- An edge has a role if it connects two nodes whose kinds have one. -/
theorem role?_eq_some_iff {role : EdgeRole} : w.role? edge = some role ↔
    ∃ source target, w.node? edge.source = some source ∧ w.node? edge.target = some target ∧
      edge.source ≠ edge.target ∧ EdgeRole.between source.kind target.kind = some role := by
  unfold role? roleBetween
  cases hsource : w.node? edge.source with
  | none => simp
  | some source =>
    cases htarget : w.node? edge.target with
    | none => simp
    | some target =>
      -- the nodes found have the ids that the edge names
      have hids : source.id = target.id ↔ edge.source = edge.target := by
        rw [(mem_and_id_of_node? hsource).2, (mem_and_id_of_node? htarget).2]
      simp [hids]

/-- An edge between nodes of two kinds does not lead back to its source. -/
private theorem source_ne_target {source target : Node}
    (hsource : w.node? edge.source = some source) (htarget : w.node? edge.target = some target)
    (h : source.kind ≠ target.kind) : edge.source ≠ edge.target := by
  intro heq
  rw [heq, htarget, Option.some.injEq] at hsource
  exact h (hsource ▸ rfl)

/-- An edge hands over a tool exactly if it leads from a tool to an agent. -/
theorem role?_eq_tool_iff : w.role? edge = some .tool ↔
    ∃ source target, w.node? edge.source = some source ∧ w.node? edge.target = some target ∧
      source.kind = .tool ∧ target.kind = .agent := by
  simp only [role?_eq_some_iff, EdgeRole.between_eq_tool_iff]
  constructor
  · rintro ⟨source, target, hsource, htarget, -, hkinds⟩
    exact ⟨source, target, hsource, htarget, hkinds⟩
  · rintro ⟨source, target, hsource, htarget, htool, hagent⟩
    have hne := source_ne_target hsource htarget (by simp [htool, hagent])
    exact ⟨source, target, hsource, htarget, hne, htool, hagent⟩

/-- An edge has a runner execute an agent exactly if it leads from the agent to the runner. -/
theorem role?_eq_execute_iff : w.role? edge = some .execute ↔
    ∃ source target, w.node? edge.source = some source ∧ w.node? edge.target = some target ∧
      source.kind = .agent ∧ target.kind = .runner := by
  simp only [role?_eq_some_iff, EdgeRole.between_eq_execute_iff]
  constructor
  · rintro ⟨source, target, hsource, htarget, -, hkinds⟩
    exact ⟨source, target, hsource, htarget, hkinds⟩
  · rintro ⟨source, target, hsource, htarget, hagent, hrunner⟩
    have hne := source_ne_target hsource htarget (by simp [hagent, hrunner])
    exact ⟨source, target, hsource, htarget, hne, hagent, hrunner⟩

/-- Where ids are distinct, an edge that leads to a node ends there. -/
theorem DistinctIds.node?_target (h : w.DistinctIds) {node : Node} (hnode : node ∈ w.nodes)
    (htarget : edge.target = node.id) : w.node? edge.target = some node :=
  h.node?_eq_some_iff.mpr ⟨hnode, htarget.symm⟩

/-- Where ids are distinct, the kinds of two nodes decide how they can be connected. -/
theorem DistinctIds.roleBetween_eq (h : w.DistinctIds) {source target : Node}
    (hsource : source ∈ w.nodes) (htarget : target ∈ w.nodes) (hne : source.id ≠ target.id) :
    w.roleBetween source.id target.id = EdgeRole.between source.kind target.kind := by
  rw [roleBetween, h.node?_eq_some_iff.mpr ⟨hsource, rfl⟩, h.node?_eq_some_iff.mpr ⟨htarget, rfl⟩]
  exact if_neg hne

end Workflow

end AgentCanvas
