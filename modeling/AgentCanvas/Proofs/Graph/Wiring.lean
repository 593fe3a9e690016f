import AgentCanvas.Graph.Edit
import AgentCanvas.Proofs.Graph.Admission
import Mathlib.Logic.Relation

/-!
# Adding edges

What becomes of the diagnostics of a workflow when an edge is added. An edge that the canvas admits
adds none, and the only ones that it can take away are those on runners that no agent feeds. An edge
that the canvas refuses adds its own diagnostics and takes none away.

## Key definitions

- `Diagnostic.isUnconnectedRunner`: diagnostics on runners that no agent feeds.
- `Workflow.Wires`: one workflow is another one with an edge more that the canvas admits.

## Key results

- `Workflow.unfedRunners_appendEdge_sublist`, `Workflow.DistinctIds.unfedRunners_appendEdge`: the
  runners that no agent feeds after an edge is added.
- `Workflow.Wires.diagnose`, `Workflow.exists_diagnose_of_reflTransGen`: diagnosing after one
  admitted edge and after a run of them.
- `Workflow.diagnose_wiring`: wiring with admitted edges never makes a workflow worse.
-/

namespace AgentCanvas

/-- Whether a diagnostic is about a runner that no agent feeds. -/
def Diagnostic.isUnconnectedRunner : Diagnostic → Bool
  | unconnectedRunner _ => true
  | _ => false

namespace Workflow

/-- A workflow becomes another one by an edge that the canvas admits. -/
def Wires (w v : Workflow) : Prop :=
  ∃ edge, w.canConnect edge.source edge.target ∧ v = w.appendEdge edge

variable {w v : Workflow} {edge : Edge} {before : List Diagnostic}

/-! ## What an edge changes -/

@[simp] theorem edges_appendEdge : (w.appendEdge edge).edges = w.edges ++ [edge] := rfl

@[simp] theorem node?_appendEdge (id : String) : (w.appendEdge edge).node? id = w.node? id := rfl

@[simp] theorem presenceDiagnostics_appendEdge :
    (w.appendEdge edge).presenceDiagnostics = w.presenceDiagnostics := rfl

@[simp] theorem edgeDiagnostics_appendEdge :
    (w.appendEdge edge).edgeDiagnostics = w.edgeDiagnostics := rfl

/-- A new edge feeds its target if its source is an agent. -/
theorem isFed_appendEdge {id : String} : (w.appendEdge edge).isFed id ↔
    w.isFed id ∨ edge.target = id ∧
      ∃ source, w.node? edge.source = some source ∧ source.kind = .agent := by
  simp only [isFed_iff, node?_appendEdge, edges_appendEdge, List.mem_append, List.mem_singleton,
    or_and_right, exists_or, exists_eq_left]

/-- Adding an edge leaves fewer runners that no agent feeds. -/
theorem unfedRunners_appendEdge_sublist (w : Workflow) (edge : Edge) :
    (w.appendEdge edge).unfedRunners.Sublist w.unfedRunners := by
  refine List.monotone_filter_right _ fun node hunfed => ?_
  rw [Bool.not_eq_true', ← Bool.not_eq_true] at hunfed ⊢
  exact fun hfed => hunfed (isFed_appendEdge.mpr (.inl hfed))

/-- Where ids are distinct, an edge without a role feeds no runner. -/
theorem DistinctIds.unfedRunners_appendEdge (h : w.DistinctIds) (hrole : w.role? edge = none) :
    (w.appendEdge edge).unfedRunners = w.unfedRunners := by
  refine List.filter_congr fun runner hrunner => ?_
  obtain ⟨hmem, hkind⟩ := mem_nodesOfKind.mp hrunner
  congr 1
  rw [Bool.eq_iff_iff, isFed_appendEdge, or_iff_left_iff_imp]
  rintro ⟨htarget, source, hsource, hagent⟩
  -- an edge from an agent to a runner would have a role
  have hexecute : w.role? edge = some .execute := role?_eq_execute_iff.mpr
    ⟨source, runner, hsource, h.node?_target hmem htarget, hagent, hkind⟩
  rw [hrole] at hexecute
  cases hexecute

/-! ## One edge -/

/-- An edge that feeds no runner adds its own diagnostics to those of the workflow. -/
theorem diagnose_appendEdge_of_unfedRunners_eq (hnodes : w.nodes ≠ [])
    (hbefore : w.diagnose = .ok before)
    (hunfed : (w.appendEdge edge).unfedRunners = w.unfedRunners) :
    (w.appendEdge edge).diagnose = .ok (before ++ w.edgeDiagnostics edge) := by
  obtain ⟨runners, names, hrunners, hnames, rfl⟩ := (diagnose_eq_ok_iff hnodes).mp hbefore
  have hnodes' : (w.appendEdge edge).nodes ≠ [] := hnodes
  rw [← hunfed] at hrunners
  refine (diagnose_eq_ok_iff hnodes').mpr ⟨runners, names, hrunners, hnames, ?_⟩
  simp only [presenceDiagnostics_appendEdge, edges_appendEdge, edgeDiagnostics_appendEdge,
    List.flatMap_append, List.flatMap_singleton, List.append_assoc]

/-- Diagnosing after an admitted edge finds fewer things, and misses at most runners that no agent
feeds. -/
theorem Wires.diagnose (h : w.Wires v) (hbefore : w.diagnose = .ok before) :
    ∃ after, v.diagnose = .ok after ∧ after.Sublist before ∧
      after.filter (!·.isUnconnectedRunner) = before.filter (!·.isUnconnectedRunner) := by
  obtain ⟨edge, hadmitted, rfl⟩ := h
  have hrole : w.role? edge ≠ none := by
    rw [ne_eq, ← canConnect_eq_false_iff, hadmitted]
    decide
  -- an empty workflow has no ends for an edge
  have hnodes : w.nodes ≠ [] := by
    intro hnil
    exact hrole (by simp [role?, roleBetween, node?, hnil])
  have hnodes' : (w.appendEdge edge).nodes ≠ [] := hnodes
  obtain ⟨runners, names, hrunners, hnames, rfl⟩ := (diagnose_eq_ok_iff hnodes).mp hbefore
  -- the runners that are left without an agent were so before, and are read as before
  obtain ⟨fewer, hfewer, hsub⟩ := Except.exists_mapM_eq_ok_of_sublist
    (unfedRunners_appendEdge_sublist w edge) hrunners
  refine ⟨_, (diagnose_eq_ok_iff hnodes').mpr ⟨fewer, names, hfewer, hnames, rfl⟩, ?_, ?_⟩ <;>
    rw [presenceDiagnostics_appendEdge, edges_appendEdge, edgeDiagnostics_appendEdge,
      List.flatMap_append, List.flatMap_singleton, edgeDiagnostics_eq_nil_iff.mpr hrole,
      List.append_nil]
  · exact (((List.Sublist.refl _).append hsub).append (.refl _)).append (.refl _)
  · have hnone {diagnostics : List Diagnostic}
        (h : ∀ diagnostic ∈ diagnostics, ∃ label, diagnostic = .unconnectedRunner label) :
        diagnostics.filter (!·.isUnconnectedRunner) = [] := by
      rw [List.filter_eq_nil_iff]
      intro diagnostic hmem
      obtain ⟨label, rfl⟩ := h diagnostic hmem
      simp [Diagnostic.isUnconnectedRunner]
    simp only [List.filter_append, hnone (exists_eq_unconnectedRunner hrunners),
      hnone (exists_eq_unconnectedRunner hfewer)]

/-! ## Runs -/

/-- Diagnosing after a run of admitted edges finds fewer things. -/
theorem exists_diagnose_of_reflTransGen (h : Relation.ReflTransGen Wires w v)
    (hbefore : w.diagnose = .ok before) :
    ∃ after, v.diagnose = .ok after ∧ after.Sublist before := by
  -- runs grow at their end, so that the last edge meets what the run before it has left
  induction h with
  | refl => exact ⟨before, hbefore, .refl _⟩
  | tail _ hlast ih =>
    obtain ⟨between, hbetween, hsub⟩ := ih
    obtain ⟨after, hafter, hlastsub, -⟩ := hlast.diagnose hbetween
    exact ⟨after, hafter, hlastsub.trans hsub⟩

/-- Wiring with admitted edges never makes a workflow worse. An admitted edge leaves a part of the
diagnostics in their order, without any but runners that no agent feeds, and so no run of admitted
edges brings about a diagnostic that is about an edge. Where ids are distinct, a refused edge keeps
all diagnostics and adds one at the end for each of its missing ends, or a single one if it misses
none. -/
theorem diagnose_wiring {w : Workflow} (hreadable : w.Readable) :
    ∃ before, w.diagnose = .ok before ∧
      (∀ edge, w.canConnect edge.source edge.target = true →
        ∃ after, (w.appendEdge edge).diagnose = .ok after ∧ after.Sublist before ∧
          after.filter (!·.isUnconnectedRunner) = before.filter (!·.isUnconnectedRunner)) ∧
      ((∀ diagnostic ∈ before, ¬diagnostic.isOnEdge) →
        ∀ v, Relation.ReflTransGen Wires w v →
          ∃ after, v.diagnose = .ok after ∧ ∀ diagnostic ∈ after, ¬diagnostic.isOnEdge) ∧
      (w.nodes ≠ [] → w.DistinctIds →
        ∀ edge, w.canConnect edge.source edge.target = false →
          ∃ added, (w.appendEdge edge).diagnose = .ok (before ++ added) ∧
            (w.missingEnds edge ≠ [] →
              added = (w.missingEnds edge).map (.unknownNode edge.id)) ∧
            (w.missingEnds edge = [] → ∃ source target, w.node? edge.source = some source ∧
              w.node? edge.target = some target ∧
              added = [.invalidConnection edge.id source.kind target.kind])) := by
  obtain ⟨before, hbefore⟩ := exists_diagnose_eq_ok_iff.mpr fun node hnode =>
    hreadable node (mem_unfedRunners_append_agents.mp hnode).1
  refine ⟨before, hbefore, fun edge hadmitted => ?_, fun hnone v hrun => ?_,
    fun hnodes hids edge hrefused => ?_⟩
  · exact Wires.diagnose ⟨edge, hadmitted, rfl⟩ hbefore
  · obtain ⟨after, hafter, hsub⟩ := exists_diagnose_of_reflTransGen hrun hbefore
    exact ⟨after, hafter, fun diagnostic hmem => hnone diagnostic (hsub.mem hmem)⟩
  · have hrole : w.role? edge = none := canConnect_eq_false_iff.mp hrefused
    refine ⟨w.edgeDiagnostics edge, diagnose_appendEdge_of_unfedRunners_eq hnodes hbefore
      (hids.unfedRunners_appendEdge hrole), edgeDiagnostics_of_missing, fun hmissing => ?_⟩
    obtain ⟨source, target, hsource, htarget⟩ := missingEnds_eq_nil_iff.mp hmissing
    exact ⟨source, target, hsource, htarget, edgeDiagnostics_of_not_missing hrole hsource htarget⟩

/-- An agent beside two runners, without any edge. -/
def draft : Workflow where
  nodes := [⟨"a", .agent, ⟨.zero, .zero⟩, .obj []⟩, ⟨"r", .runner, ⟨.zero, .zero⟩, .obj []⟩,
    ⟨"q", .runner, ⟨.zero, .zero⟩, .obj []⟩]
  edges := []

/-- The draft has a diagnostic for each of its runners. An edge from the agent to one of them leaves
a part of these, edges to both of them bring about no diagnostic on edges, and an edge from a runner
to nowhere adds one. -/
theorem diagnose_wiring_draft : draft.Readable ∧ draft.DistinctIds ∧
    draft.canConnect "a" "r" = true ∧ draft.canConnect "q" "x" = false ∧
    (∃ after, (draft.appendEdge ⟨"1", "a", "r"⟩).diagnose = .ok after ∧
      after.Sublist [.unconnectedRunner "r", .unconnectedRunner "q"]) ∧
    (∃ after, ((draft.appendEdge ⟨"1", "a", "r"⟩).appendEdge ⟨"2", "a", "q"⟩).diagnose =
      .ok after ∧ ∀ diagnostic ∈ after, ¬diagnostic.isOnEdge) ∧
    (draft.appendEdge ⟨"3", "q", "x"⟩).diagnose =
      .ok [.unconnectedRunner "r", .unconnectedRunner "q", .unknownNode "3" "x"] := by
  have hreadable : draft.Readable := by
    simp only [Readable, draft, List.forall_mem_cons]
    exact ⟨⟨_, rfl⟩, ⟨_, rfl⟩, ⟨_, rfl⟩, List.forall_mem_nil _⟩
  have hids : draft.DistinctIds := by
    change ["a", "r", "q"].Nodup
    decide
  obtain ⟨before, hbefore, hadmitted, hrun, hrefused⟩ := diagnose_wiring hreadable
  have hfound : draft.diagnose = .ok [.unconnectedRunner "r", .unconnectedRunner "q"] := rfl
  rw [hfound, Except.ok.injEq] at hbefore
  subst hbefore
  refine ⟨hreadable, hids, rfl, rfl, ?_, ?_, ?_⟩
  · obtain ⟨after, hafter, hsub, -⟩ := hadmitted ⟨"1", "a", "r"⟩ rfl
    exact ⟨after, hafter, hsub⟩
  · refine hrun (by decide) _ (.tail (.single ⟨_, ?_, rfl⟩) ⟨_, ?_, rfl⟩) <;> rfl
  · obtain ⟨added, hadded, hmissing, -⟩ := hrefused (List.cons_ne_nil _ _) hids ⟨"3", "q", "x"⟩ rfl
    rw [hadded, hmissing (by decide)]
    rfl

end Workflow

end AgentCanvas
