import AgentCanvas.Proofs.Graph.Diagnostics

/-!
# Admission of edges

Whether an edge makes sense is asked in four places: the canvas asks before it adds the edge,
diagnosing complains about it, its role is looked up and it is saved with the name of its role. The
answers agree for every edge, whatever state the workflow is in: ids may repeat, ends may be missing
and an edge may lead back to its source.

## Key definitions

- `Diagnostic.isOnEdge`: diagnostics that are about an edge.
- `Workflow.missingEnds`: the ends of an edge at which there is no node.
- `Workflow.savedType?`: the type with which an edge is saved.

## Key results

- `Workflow.edgeDiagnostics_of_missing`, `Workflow.edgeDiagnostics_of_not_missing`: what diagnosing
  says about an edge.
- `Workflow.savedType?_eq`: an edge is saved with the name of its role.
- `Workflow.edges_judgedAlike`: the four answers agree.
-/

namespace AgentCanvas

/-- Whether a diagnostic is about an edge. -/
def Diagnostic.isOnEdge : Diagnostic → Bool
  | unknownNode _ _ | invalidConnection _ _ _ => true
  | _ => false

/-- The value under a key of an object; other values have none. -/
def Json.member? (key : String) : Json → Option Json
  | .obj members => Entries.get? members key
  | _ => none

theorem EdgeRole.document_eq_null_iff {role : Option EdgeRole} :
    document role = .null ↔ role = none := by
  cases role <;> simp [document]

namespace Workflow

variable {w : Workflow} {edge : Edge}

/-- The ends of an edge at which there is no node, the source first. -/
def missingEnds (w : Workflow) (edge : Edge) : List String :=
  [edge.source, edge.target].filter fun id => (w.node? id).isNone

/-- The type with which the edge at a place is saved. -/
def savedType? (w : Workflow) (place : Nat) : Option Json :=
  ((w.toDocument.member? "edges").bind (·.items[place]?)).bind (Json.member? "type")

/-! ## The four answers -/

/-- The canvas refuses exactly the edges without a role. -/
theorem canConnect_eq_false_iff :
    w.canConnect edge.source edge.target = false ↔ w.role? edge = none :=
  Option.isSome_eq_false_iff.trans Option.isNone_iff_eq_none

/-- An edge is saved with the name of its role. -/
theorem savedType?_eq (w : Workflow) (place : Nat) :
    w.savedType? place = w.edges[place]?.map fun edge => EdgeRole.document (w.role? edge) := by
  have hedges : w.toDocument.member? "edges" = some (.arr (w.edges.map w.edgeDocument)) := rfl
  have htype (edge : Edge) :
      (w.edgeDocument edge).member? "type" = some (EdgeRole.document (w.role? edge)) := rfl
  rw [savedType?, hedges, Option.bind_some, Json.items, List.getElem?_map]
  cases w.edges[place]? with
  | none => rfl
  | some edge => exact htype edge

/-- No end is missing exactly if both ends are found. -/
theorem missingEnds_eq_nil_iff : w.missingEnds edge = [] ↔
    ∃ source target, w.node? edge.source = some source ∧ w.node? edge.target = some target := by
  cases hsource : w.node? edge.source <;> cases htarget : w.node? edge.target <;>
    simp [missingEnds, hsource, htarget]

/-- Diagnosing names the ends of an edge that are missing. -/
theorem edgeDiagnostics_of_missing (h : w.missingEnds edge ≠ []) :
    w.edgeDiagnostics edge = (w.missingEnds edge).map (.unknownNode edge.id) := by
  unfold edgeDiagnostics missingEnds at *
  cases hsource : w.node? edge.source <;> cases htarget : w.node? edge.target
  -- all but the last case miss an end
  · simp [hsource, htarget]
  · simp [hsource, htarget]
  · simp [hsource, htarget]
  · simp [hsource, htarget] at h

/-- Diagnosing complains once about an edge without a role whose ends are both found. -/
theorem edgeDiagnostics_of_not_missing {source target : Node} (h : w.role? edge = none)
    (hsource : w.node? edge.source = some source) (htarget : w.node? edge.target = some target) :
    w.edgeDiagnostics edge = [.invalidConnection edge.id source.kind target.kind] := by
  simp [edgeDiagnostics, hsource, htarget, h]

/-- What diagnosing says about an edge is about an edge. -/
theorem isOnEdge_of_mem_edgeDiagnostics {diagnostic : Diagnostic}
    (h : diagnostic ∈ w.edgeDiagnostics edge) : diagnostic.isOnEdge := by
  by_cases hmissing : w.missingEnds edge = []
  · obtain ⟨source, target, hsource, htarget⟩ := missingEnds_eq_nil_iff.mp hmissing
    cases hrole : w.role? edge with
    | none =>
      rw [edgeDiagnostics_of_not_missing hrole hsource htarget, List.mem_singleton] at h
      rw [h]
      rfl
    | some role =>
      rw [edgeDiagnostics_eq_nil_iff.mpr (by simp [hrole])] at h
      cases h
  · rw [edgeDiagnostics_of_missing hmissing] at h
    obtain ⟨id, -, rfl⟩ := List.mem_map.mp h
    rfl

/-! ## Diagnostics that are not about edges -/

theorem not_isOnEdge_presenceDiagnostics :
    ∀ diagnostic ∈ w.presenceDiagnostics, ¬diagnostic.isOnEdge := by
  unfold presenceDiagnostics
  split <;> split <;> decide

theorem exists_eq_unconnectedRunner {nodes : List Node} {diagnostics : List Diagnostic}
    (h : nodes.mapM unconnected = .ok diagnostics) :
    ∀ diagnostic ∈ diagnostics, ∃ label, diagnostic = .unconnectedRunner label := by
  have hmap : nodes.map unconnected = diagnostics.map .ok :=
    (Except.mapM_eq_ok_iff fun _ _ _ => Iff.rfl).mp h
  intro diagnostic hmem
  have hok : .ok diagnostic ∈ nodes.map unconnected := hmap ▸ List.mem_map_of_mem hmem
  obtain ⟨node, -, hnode⟩ := List.mem_map.mp hok
  obtain ⟨runner, -, hrunner⟩ := Except.bind_eq_ok_iff.mp hnode
  cases hrunner
  exact ⟨_, rfl⟩

/-- The diagnostics of a workflow with nodes end with those of its edges, in order, and those in
front of them are not about edges. -/
theorem exists_diagnose_eq_append (hnodes : w.nodes ≠ []) {diagnostics : List Diagnostic}
    (h : w.diagnose = .ok diagnostics) : ∃ front,
      diagnostics = front ++ w.edges.flatMap w.edgeDiagnostics ∧
        ∀ diagnostic ∈ front, ¬diagnostic.isOnEdge := by
  obtain ⟨runners, names, hrunners, -, rfl⟩ := (diagnose_eq_ok_iff hnodes).mp h
  refine ⟨_, rfl, ?_⟩
  simp only [List.forall_mem_append]
  refine ⟨⟨not_isOnEdge_presenceDiagnostics, fun diagnostic hmem => ?_⟩, fun diagnostic hmem => ?_⟩
  · obtain ⟨label, rfl⟩ := exists_eq_unconnectedRunner hrunners diagnostic hmem
    simp [Diagnostic.isOnEdge]
  · obtain ⟨name, -, rfl⟩ := List.mem_map.mp hmem
    simp [Diagnostic.isOnEdge]

/-! ## Agreement -/

/-- All answers about the edge at a place agree. -/
structure JudgedAlike (w : Workflow) (place : Nat) (edge : Edge) : Prop where
  /-- Diagnosing complains about an edge exactly if it has no role. -/
  diagnosed : w.edgeDiagnostics edge ≠ [] ↔ w.role? edge = none
  /-- The canvas refuses an edge exactly if it has no role. -/
  refused : w.canConnect edge.source edge.target = false ↔ w.role? edge = none
  /-- An edge is saved with a null type exactly if it has no role. -/
  savedNull : w.savedType? place = some .null ↔ w.role? edge = none
  /-- If an end is missing, the complaints are one for each missing end. -/
  missing : w.missingEnds edge ≠ [] →
    w.edgeDiagnostics edge = (w.missingEnds edge).map (.unknownNode edge.id)
  /-- If an edge without a role misses no end, the one complaint is about the kinds of its ends. -/
  invalid : w.role? edge = none → w.missingEnds edge = [] → ∃ source target,
    w.node? edge.source = some source ∧ w.node? edge.target = some target ∧
      w.edgeDiagnostics edge = [.invalidConnection edge.id source.kind target.kind]

theorem judgedAlike_of_getElem? {place : Nat} (h : w.edges[place]? = some edge) :
    w.JudgedAlike place edge where
  diagnosed := by rw [ne_eq, edgeDiagnostics_eq_nil_iff, not_ne_iff]
  refused := canConnect_eq_false_iff
  savedNull := by
    rw [savedType?_eq, h, Option.map_some, Option.some.injEq, EdgeRole.document_eq_null_iff]
  missing := edgeDiagnostics_of_missing
  invalid hrole hmissing := by
    obtain ⟨source, target, hsource, htarget⟩ := missingEnds_eq_nil_iff.mp hmissing
    exact ⟨source, target, hsource, htarget, edgeDiagnostics_of_not_missing hrole hsource htarget⟩

/-- In every state of a workflow with nodes that diagnosing can read, the diagnostics that are about
edges stand at the end, those of one edge behind those of another as the edges do, and all answers
about each edge agree. -/
theorem edges_judgedAlike {w : Workflow} (hnodes : w.nodes ≠ [])
    (hread : ∀ node ∈ w.unfedRunners ++ w.nodesOfKind .agent, node.Readable) :
    (∃ front, w.diagnose = .ok (front ++ w.edges.flatMap w.edgeDiagnostics) ∧
      (∀ diagnostic ∈ front, ¬diagnostic.isOnEdge) ∧
      ∀ diagnostic ∈ w.edges.flatMap w.edgeDiagnostics, diagnostic.isOnEdge) ∧
    ∀ place edge, w.edges[place]? = some edge → w.JudgedAlike place edge := by
  refine ⟨?_, fun place edge hedge => judgedAlike_of_getElem? hedge⟩
  obtain ⟨diagnostics, hdiagnostics⟩ := exists_diagnose_eq_ok_iff.mpr hread
  obtain ⟨front, rfl, hfront⟩ := exists_diagnose_eq_append hnodes hdiagnostics
  refine ⟨front, hdiagnostics, hfront, fun diagnostic hmem => ?_⟩
  obtain ⟨edge, -, hedge⟩ := List.mem_flatMap.mp hmem
  exact isOnEdge_of_mem_edgeDiagnostics hedge

/-- An agent and a runner under one id, a tool whose attributes are unreadable, and edges of all
kinds: back to their source, to and from nowhere, against the rules and within them. -/
def tangle : Workflow where
  nodes := [⟨"a", .agent, ⟨.zero, .zero⟩, .obj []⟩, ⟨"a", .runner, ⟨.zero, .zero⟩, .obj []⟩,
    ⟨"t", .tool, ⟨.zero, .zero⟩, .null⟩]
  edges := [⟨"1", "a", "a"⟩, ⟨"2", "x", "y"⟩, ⟨"3", "t", "a"⟩, ⟨"4", "a", "t"⟩, ⟨"5", "t", "x"⟩]

/-- Diagnosing the tangle complains about all of its edges but the one from the tool to the agent,
twice about the edge from nowhere to nowhere. -/
theorem edges_judgedAlike_tangle : tangle.nodes ≠ [] ∧
    (∀ node ∈ tangle.unfedRunners ++ tangle.nodesOfKind .agent, node.Readable) ∧
    (∃ front, tangle.diagnose = .ok (front ++ [.invalidConnection "1" .agent .agent,
      .unknownNode "2" "x", .unknownNode "2" "y", .invalidConnection "4" .agent .tool,
      .unknownNode "5" "x"]) ∧ ∀ diagnostic ∈ front, ¬diagnostic.isOnEdge) ∧
    tangle.savedType? 0 = some .null ∧ tangle.canConnect "t" "a" = true := by
  have hnodes : tangle.nodes ≠ [] := List.cons_ne_nil _ _
  have hread : ∀ node ∈ tangle.unfedRunners ++ tangle.nodesOfKind .agent, node.Readable := by
    have hnode : tangle.unfedRunners ++ tangle.nodesOfKind .agent =
        [⟨"a", .agent, ⟨.zero, .zero⟩, .obj []⟩] := rfl
    rw [hnode, List.forall_mem_singleton]
    exact ⟨_, rfl⟩
  obtain ⟨⟨front, hdiagnose, hfront, -⟩, hedges⟩ := edges_judgedAlike hnodes hread
  refine ⟨hnodes, hread, ⟨front, hdiagnose, hfront⟩, ?_, ?_⟩
  · exact (hedges 0 ⟨"1", "a", "a"⟩ rfl).savedNull.mpr rfl
  · have hrefused := (hedges 2 ⟨"3", "t", "a"⟩ rfl).refused
    have hrole : tangle.role? ⟨"3", "t", "a"⟩ = some .tool := rfl
    rw [hrole] at hrefused
    simpa using hrefused

end Workflow

end AgentCanvas
