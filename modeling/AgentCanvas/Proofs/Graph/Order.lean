import AgentCanvas.Proofs.Graph.Diagnostics
import Mathlib.Data.List.Perm.Basic

/-!
# Order of nodes and edges

A workflow lists its nodes and edges in an order, and diagnosing goes through them in that order: it
takes the first node with an id, stops at the first edge from an agent and reports a name when it
meets it a second time. Where ids are distinct, all that depends on the order is the order in which
diagnostics come.

## Key definitions

- `Workflow.Reordered`: two workflows with the same nodes and the same edges, in any order.

## Key results

- `repeatedNames_perm`: repeated names in another order.
- `Workflow.Reordered.node?_eq`: which node is found under an id.
- `Workflow.diagnose_reordered`: diagnostics in another order.
-/

namespace AgentCanvas

/-! ## Repeated names -/

/-- Every repeated name is found once, however often it is repeated. -/
theorem nodup_repeatedNames {seen found names : List String} :
    (repeatedNames seen found names).Nodup := by
  induction names generalizing seen found with
  | nil => exact List.nodup_nil
  | cons name rest ih =>
    rw [repeatedNames]
    split
    next =>
      -- from here on the name is known to be repeated, so it is not found again
      have hname : name ∉ repeatedNames seen (name :: found) rest := fun hmem =>
        (mem_repeatedNames_iff.mp hmem).1 List.mem_cons_self
      exact List.nodup_cons.mpr ⟨hname, ih⟩
    next => exact ih

/-- Names in another order are repeated in another order: which name is repeated depends on how
often it occurs, and each one is found once. -/
theorem repeatedNames_perm {names others : List String} (h : names.Perm others) :
    (repeatedNames [] [] names).Perm (repeatedNames [] [] others) := by
  apply (List.perm_ext_iff_of_nodup nodup_repeatedNames nodup_repeatedNames).mpr
  intro name
  simp only [mem_repeatedNames_iff, h.count_eq name, h.mem_iff]

namespace Workflow

/-- Two workflows list the same nodes and the same edges, each in some order. -/
structure Reordered (w v : Workflow) : Prop where
  nodes : w.nodes.Perm v.nodes
  edges : w.edges.Perm v.edges

namespace Reordered

variable {w v : Workflow}

/-! ## Nodes -/

theorem distinctIds (h : w.Reordered v) (hids : w.DistinctIds) : v.DistinctIds :=
  (h.nodes.map Node.id).nodup_iff.mp hids

theorem nodesOfKind (h : w.Reordered v) (kind : NodeKind) :
    (w.nodesOfKind kind).Perm (v.nodesOfKind kind) :=
  h.nodes.filter _

/-- Where ids are distinct, the first node with an id is the only one. -/
theorem node?_eq (h : w.Reordered v) (hids : w.DistinctIds) (id : String) :
    w.node? id = v.node? id := by
  apply Option.ext
  intro node
  show w.node? id = some node ↔ v.node? id = some node
  rw [hids.node?_eq_some_iff, (h.distinctIds hids).node?_eq_some_iff, h.nodes.mem_iff]

/-- Whether an agent feeds a node does not depend on which edge is looked at first. -/
theorem isFed_eq (h : w.Reordered v) (hids : w.DistinctIds) (id : String) :
    w.isFed id = v.isFed id := by
  rw [Bool.eq_iff_iff, isFed_iff, isFed_iff]
  simp only [h.edges.mem_iff, h.node?_eq hids]

theorem unfedRunners (h : w.Reordered v) (hids : w.DistinctIds) :
    w.unfedRunners.Perm v.unfedRunners := by
  unfold Workflow.unfedRunners
  rw [funext fun node : Node => congrArg not (h.isFed_eq hids node.id)]
  exact (h.nodesOfKind .runner).filter _

/-! ## Diagnostics -/

theorem presenceDiagnostics_eq (h : w.Reordered v) :
    w.presenceDiagnostics = v.presenceDiagnostics := by
  unfold presenceDiagnostics
  rw [(h.nodesOfKind .agent).isEmpty_eq, (h.nodesOfKind .runner).isEmpty_eq]

theorem edgeDiagnostics_eq (h : w.Reordered v) (hids : w.DistinctIds) :
    w.edgeDiagnostics = v.edgeDiagnostics := by
  funext edge
  have hrole : w.role? edge = v.role? edge := by
    simp only [role?, roleBetween, h.node?_eq hids]
  simp only [edgeDiagnostics, hrole, h.node?_eq hids]

/-- The names of the agents come in another order. -/
theorem agentNames (h : w.Reordered v) {names : List String} (hnames : w.agentNames = .ok names) :
    ∃ others, v.agentNames = .ok others ∧ names.Perm others := by
  obtain ⟨agents, hagents, hpure⟩ := Except.bind_eq_ok_iff.mp hnames
  cases hpure
  obtain ⟨others, hothers, hperm⟩ := Except.exists_mapM_eq_ok_of_perm (h.nodesOfKind .agent) hagents
  exact ⟨_, Except.bind_eq_ok_iff.mpr ⟨others, hothers, rfl⟩, (hperm.map _).filter _⟩

/-- Diagnosing the nodes and edges in another order finds the same in another order, block by
block. -/
theorem diagnose (h : w.Reordered v) (hids : w.DistinctIds) {before : List Diagnostic}
    (hbefore : w.diagnose = .ok before) : ∃ after, v.diagnose = .ok after ∧ before.Perm after := by
  by_cases hnodes : w.nodes = []
  -- no nodes are no nodes in any order
  · have hnodes' : v.nodes = [] := List.perm_nil.mp (hnodes ▸ h.nodes.symm)
    have heq : w.diagnose = v.diagnose := by simp [Workflow.diagnose, hnodes, hnodes']
    exact ⟨before, heq ▸ hbefore, .refl _⟩
  · have hnodes' : v.nodes ≠ [] := fun hnil => hnodes (List.perm_nil.mp (hnil ▸ h.nodes))
    obtain ⟨runners, names, hrunners, hnames, rfl⟩ := (diagnose_eq_ok_iff hnodes).mp hbefore
    obtain ⟨runners', hrunners', hrunnersPerm⟩ :=
      Except.exists_mapM_eq_ok_of_perm (h.unfedRunners hids) hrunners
    obtain ⟨names', hnames', hnamesPerm⟩ := h.agentNames hnames
    refine ⟨_, (diagnose_eq_ok_iff hnodes').mpr ⟨runners', names', hrunners', hnames', rfl⟩, ?_⟩
    -- the diagnostics on kinds are the same, those on runners, names and edges come reordered
    rw [h.presenceDiagnostics_eq, h.edgeDiagnostics_eq hids]
    exact (((List.Perm.refl _).append hrunnersPerm).append
      ((repeatedNames_perm hnamesPerm).map _)).append (h.edges.flatMap_right _)

end Reordered

/-- Diagnosing the same nodes and edges in another order finds the same things, if ids are distinct
and all attributes can be read: diagnostics and their wording come in another order at most, and
there are none for one order exactly if there are none for the other. -/
theorem diagnose_reordered {w v : Workflow} (hids : w.DistinctIds) (hreadable : w.Readable)
    (hnodes : w.nodes.Perm v.nodes) (hedges : w.edges.Perm v.edges) :
    ∃ before after, w.diagnose = .ok before ∧ v.diagnose = .ok after ∧ before.Perm after ∧
      (before.map (·.message)).Perm (after.map (·.message)) ∧ (before = [] ↔ after = []) := by
  obtain ⟨before, hbefore⟩ := exists_diagnose_eq_ok_iff.mpr fun node hnode =>
    hreadable node (mem_unfedRunners_append_agents.mp hnode).1
  obtain ⟨after, hafter, hperm⟩ := Reordered.diagnose ⟨hnodes, hedges⟩ hids hbefore
  refine ⟨before, after, hbefore, hafter, hperm, hperm.map _, ?_⟩
  rw [← List.length_eq_zero_iff, ← List.length_eq_zero_iff, hperm.length_eq]

/-- Two agents of each of two names, two runners that no agent feeds and edges to nowhere. -/
def crowd : Workflow where
  nodes := [⟨"a", .agent, ⟨.zero, .zero⟩, .obj [("name", .str "Ann")]⟩,
    ⟨"b", .agent, ⟨.zero, .zero⟩, .obj [("name", .str "Bob")]⟩,
    ⟨"r", .runner, ⟨.zero, .zero⟩, .obj []⟩, ⟨"q", .runner, ⟨.zero, .zero⟩, .obj []⟩,
    ⟨"c", .agent, ⟨.zero, .zero⟩, .obj [("name", .str "Ann")]⟩,
    ⟨"d", .agent, ⟨.zero, .zero⟩, .obj [("name", .str "Bob")]⟩]
  edges := [⟨"1", "a", "x"⟩, ⟨"2", "b", "y"⟩]

/-- The crowd that stands in line the other way round. -/
def crowdReversed : Workflow :=
  ⟨crowd.nodes.reverse, crowd.edges.reverse⟩

/-- The crowd has the same diagnostics from either side, in another order. -/
theorem diagnose_reordered_crowd : crowd.DistinctIds ∧ crowd.Readable ∧
    crowd.nodes.Perm crowdReversed.nodes ∧ crowd.edges.Perm crowdReversed.edges ∧
    ∃ before after, crowd.diagnose = .ok before ∧ crowdReversed.diagnose = .ok after ∧
      before = [.unconnectedRunner "r", .unconnectedRunner "q", .repeatedAgentName "Ann",
        .repeatedAgentName "Bob", .unknownNode "1" "x", .unknownNode "2" "y"] ∧
      after = [.unconnectedRunner "q", .unconnectedRunner "r", .repeatedAgentName "Bob",
        .repeatedAgentName "Ann", .unknownNode "2" "y", .unknownNode "1" "x"] ∧
      before.Perm after := by
  have hids : crowd.DistinctIds := by
    change ["a", "b", "r", "q", "c", "d"].Nodup
    decide
  have hreadable : crowd.Readable := by
    simp only [Readable, crowd, List.forall_mem_cons]
    exact ⟨⟨_, rfl⟩, ⟨_, rfl⟩, ⟨_, rfl⟩, ⟨_, rfl⟩, ⟨_, rfl⟩, ⟨_, rfl⟩, List.forall_mem_nil _⟩
  have hnodes : crowd.nodes.Perm crowdReversed.nodes := (List.reverse_perm _).symm
  have hedges : crowd.edges.Perm crowdReversed.edges := (List.reverse_perm _).symm
  obtain ⟨before, after, hbefore, hafter, hperm, -⟩ :=
    diagnose_reordered hids hreadable hnodes hedges
  refine ⟨hids, hreadable, hnodes, hedges, before, after, hbefore, hafter, ?_, ?_, hperm⟩
  · exact (Except.ok.inj hbefore).symm
  · exact (Except.ok.inj hafter).symm

end Workflow

end AgentCanvas
