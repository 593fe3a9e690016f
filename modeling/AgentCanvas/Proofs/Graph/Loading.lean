import AgentCanvas.Proofs.Graph.Session

/-!
# Loading item by item

A document is loaded as its nodes and edges are accepted one by one. If one of them is refused, the
document is refused for the issues of all of them; only if none is are the ids compared.

## Key definitions

- `Workflow.itemIssues`: the issues of listed items, seen from the document.

## Key results

- `Workflow.check_eq_invalid`: a document with an item that is refused.
- `Workflow.foldlM_appendNode`, `Workflow.foldlM_appendEdge`: adding accepted items one by one.
- `Workflow.ofDocument_compositional`: what loading makes of a document, from what is made of its
  items.
-/

namespace AgentCanvas

open Checked

/-- An issue of an item, seen from the document that lists the item under a key. -/
def Issue.ofItem (key : String) (place : Nat) (issue : Issue) : Issue :=
  { issue with path := .key key :: .index place :: issue.path }

namespace Workflow

/-! ## Refused items -/

section

variable {α β : Type}

/-- The issues of listed items, each seen from the document. -/
def itemIssues (check : α → Checked β) (key : String) (items : List α) : List Issue :=
  items.zipIdx.flatMap fun item => (check item.1).issues.map (Issue.ofItem key item.2)

theorem issues_under_each (check : α → Checked β) (key : String) (items : List α) :
    ((each check items).under (.key key)).issues = itemIssues check key items := by
  rw [issues_under, each, issues_eachFrom, List.map_flatMap, itemIssues]
  simp only [List.map_map]
  rfl

end

/-- A document with an item that is refused is refused for the issues of all items. -/
theorem check_eq_invalid {members : Members} {draws : Draws}
    (h : (∃ item ∈ listed members "nodes", ∀ node, Node.check item ≠ valid node) ∨
      ∃ item ∈ listedEdges members draws, ∀ edge, Edge.check item.1 item.2 ≠ valid edge) :
    check members draws = invalid (itemIssues Node.check "nodes" (listed members "nodes") ++
      itemIssues (fun item => Edge.check item.1 item.2) "edges" (listedEdges members draws)) := by
  -- the ids are not compared, because there is no workflow to compare them in
  have hrefused : ∀ w, ((valid Workflow.mk).also
      ((each Node.check (listed members "nodes")).under (.key "nodes"))).also
      ((each (fun item => Edge.check item.1 item.2) (listedEdges members draws)).under
        (.key "edges")) ≠ valid w := by
    intro w hw
    obtain ⟨_, edges, hbuild, hedges, -⟩ := also_eq_valid_iff.mp hw
    obtain ⟨_, nodes, -, hnodes, -⟩ := also_eq_valid_iff.mp hbuild
    rcases h with ⟨item, hitem, hnone⟩ | ⟨item, hitem, hnone⟩
    · have hall := each_eq_valid_iff.mp (under_eq_valid_iff.mp hnodes)
      obtain ⟨node, -, hnode⟩ := hall.exists_of_mem_left hitem
      exact hnone node hnode
    · have hall := each_eq_valid_iff.mp (under_eq_valid_iff.mp hedges)
      obtain ⟨edge, -, hedge⟩ := hall.exists_of_mem_left hitem
      exact hnone edge hedge
  rw [check, eq_invalid_issues hrefused, andThen, issues_also, issues_also, issues_valid,
    List.nil_append, issues_under_each, issues_under_each]

/-! ## Accepted items -/

/-- Accepted nodes are added in order. -/
theorem foldlM_appendNode {items : List Json} {nodes : List Node}
    (h : List.Forall₂ (fun item node => Node.check item = valid node) items nodes) (w : Workflow) :
    (items.map Edit.appendNode).foldlM edit w = .ok { w with nodes := w.nodes ++ nodes } := by
  induction h generalizing w with
  | nil => simp [pure, Except.pure]
  | cons hnode _ ih =>
    rw [List.map_cons, List.foldlM_cons, edit, hnode]
    refine (ih (w.appendNode _)).trans ?_
    simp [appendNode]

/-- Accepted edges are added in order. -/
theorem foldlM_appendEdge {items : List (Json × String)} {edges : List Edge}
    (h : List.Forall₂ (fun item edge => Edge.check item.1 item.2 = valid edge) items edges)
    (w : Workflow) : (items.map fun item => Edit.appendEdge item.1 item.2).foldlM edit w =
      .ok { w with edges := w.edges ++ edges } := by
  induction h generalizing w with
  | nil => simp [pure, Except.pure]
  | cons hedge _ ih =>
    rw [List.map_cons, List.foldlM_cons, edit, hedge]
    refine (ih (w.appendEdge _)).trans ?_
    simp [appendEdge]

/-! ## Documents -/

/-- A document is loaded exactly if each of its nodes and edges is accepted on its own and the ids
of the nodes are distinct. The workflow then holds these nodes and edges in order, and it is what
adding them one after another makes of the empty document. An edge is given the same drawn id either
way. If some item is refused, the document is
refused for the issues of its nodes and then those of its edges, each with the path to the item in
front. If all are accepted but ids repeat, it is refused for one issue only, which names the id at
the least place whose id stood at an earlier place. -/
theorem ofDocument_compositional (members : Members) (draws : Draws) :
    let nodes := listed members "nodes"
    let edges := listedEdges members draws
    (∀ w, ofDocument (.obj members) draws = .ok w ↔
      List.Forall₂ (fun item node => Node.check item = valid node) nodes w.nodes ∧
      List.Forall₂ (fun item edge => Edge.check item.1 item.2 = valid edge) edges w.edges ∧
      w.DistinctIds) ∧
    (∀ w, ofDocument (.obj members) draws = .ok w →
      ∃ start, ofDocument (.obj []) draws = .ok start ∧
        (nodes.map Edit.appendNode ++ edges.map fun item => Edit.appendEdge item.1 item.2).foldlM
          edit start = .ok w) ∧
    ((∃ item ∈ nodes, ∀ node, Node.check item ≠ valid node) ∨
        (∃ item ∈ edges, ∀ edge, Edge.check item.1 item.2 ≠ valid edge) →
      ofDocument (.obj members) draws = .error (.invalid ⟨.workflow,
        itemIssues Node.check "nodes" nodes ++
          itemIssues (fun item => Edge.check item.1 item.2) "edges" edges⟩)) ∧
    (∀ w : Workflow, List.Forall₂ (fun item node => Node.check item = valid node) nodes w.nodes →
      List.Forall₂ (fun item edge => Edge.check item.1 item.2 = valid edge) edges w.edges →
      ¬w.DistinctIds → ∃ place id, IsLeast (repeatedPlaces (w.nodes.map (·.id))) place ∧
        (w.nodes.map (·.id))[place]? = some id ∧
        ofDocument (.obj members) draws =
          .error (.invalid ⟨.workflow, [⟨[], .repeatedNode id⟩]⟩)) := by
  intro nodes edges
  have hloads (w : Workflow) : ofDocument (.obj members) draws = .ok w ↔
      List.Forall₂ (fun item node => Node.check item = valid node) nodes w.nodes ∧
      List.Forall₂ (fun item edge => Edge.check item.1 item.2 = valid edge) edges w.edges ∧
      w.DistinctIds := by
    simp only [ofDocument_eq_ok_iff, Json.obj.injEq, exists_eq_left', nodes, edges]
  refine ⟨hloads, ?_, ?_, ?_⟩
  · intro w hw
    obtain ⟨hnodes, hedges, -⟩ := (hloads w).mp hw
    refine ⟨empty, rfl, ?_⟩
    rw [List.foldlM_append, foldlM_appendNode hnodes]
    exact foldlM_appendEdge hedges _
  · intro hrefused
    rw [ofDocument, check_eq_invalid hrefused]
    rfl
  · intro w hnodes hedges hids
    obtain ⟨_, id, _, -, -, -, hid⟩ := exists_firstRepeated_of_not_distinctIds hids
    obtain ⟨place, hleast, hplace⟩ := isLeast_of_firstRepeated? hid
    refine ⟨place, id, hleast, hplace, ?_⟩
    rw [ofDocument, check_eq_checkDistinct hnodes hedges, checkDistinct, hid]
    rfl

/-- The document of a runner with an id. -/
def runnerDocument (id : String) : Json :=
  .obj [("id", .str id), ("type", .str "runner")]

/-- Two runners are loaded as if they were added one by one. Beside a good runner, a node without id
of an unknown kind and an edge to a number are refused with all of their issues. Of four runners,
two ids of which repeat, the third is the first that repeats one; that the edges are no list does
not matter. -/
theorem ofDocument_compositional_runners :
    (∃ w start, ofDocument (.obj [("nodes", .arr [runnerDocument "a", runnerDocument "b"])]) =
      .ok w ∧ ofDocument (.obj []) = .ok start ∧
      [.appendNode (runnerDocument "a"), .appendNode (runnerDocument "b")].foldlM edit start =
        .ok w) ∧
    ofDocument (.obj [("nodes", .arr [runnerDocument "a", .obj [("type", .str "robot")]]),
      ("edges", .arr [.obj [("source", .str "a"), ("target", .int 1)]])]) =
        .error (.invalid ⟨.workflow, [⟨[.key "nodes", .index 1, .key "id"], .missing⟩,
          ⟨[.key "nodes", .index 1, .key "type"],
            .unknownKind ["agent", "runner", "functionTool"]⟩,
          ⟨[.key "edges", .index 0, .key "target"], .notText⟩]⟩) ∧
    ofDocument (.obj [("nodes", .arr (["a", "b", "b", "a"].map runnerDocument)),
      ("edges", .str "none")]) =
        .error (.invalid ⟨.workflow, [⟨[], .repeatedNode "b"⟩]⟩) := by
  refine ⟨?_, ?_, ?_⟩
  · have hloaded : ofDocument (.obj [("nodes", .arr [runnerDocument "a", runnerDocument "b"])]) =
        .ok ⟨[⟨"a", .runner, ⟨.zero, .zero⟩, .obj []⟩, ⟨"b", .runner, ⟨.zero, .zero⟩, .obj []⟩],
          []⟩ := rfl
    obtain ⟨start, hstart, hadded⟩ := (ofDocument_compositional _ .same).2.1 _ hloaded
    exact ⟨_, start, hloaded, hstart, hadded⟩
  · refine ((ofDocument_compositional _ .same).2.2.1
      (.inl ⟨.obj [("type", .str "robot")], ?_, ?_⟩)).trans rfl
    · exact List.mem_cons_of_mem _ List.mem_cons_self
    · intro node h
      cases h
  · let w : Workflow := ⟨["a", "b", "b", "a"].map fun id =>
      ⟨id, .runner, ⟨.zero, .zero⟩, .obj []⟩, []⟩
    have hnodes : List.Forall₂ (fun item node => Node.check item = valid node)
        (["a", "b", "b", "a"].map runnerDocument) w.nodes :=
      .cons rfl (.cons rfl (.cons rfl (.cons rfl .nil)))
    obtain ⟨place, id, hleast, hplace, herror⟩ :=
      (ofDocument_compositional [("nodes", .arr (["a", "b", "b", "a"].map runnerDocument)),
        ("edges", .str "none")] .same).2.2.2 w hnodes .nil (by decide)
    have hle : place ≤ 2 := hleast.2 ⟨"b", rfl, by decide⟩
    obtain ⟨other, hother, hmem⟩ := hleast.1
    -- nothing stands before the first place, and the second holds a new id
    match place, hle with
    | 0, _ => cases hmem
    | 1, _ =>
      obtain rfl : "b" = other := Option.some.inj hother
      exact absurd hmem (by decide : "b" ∉ ["a"])
    | 2, _ =>
      obtain rfl : "b" = id := Option.some.inj hplace
      exact herror

end Workflow

end AgentCanvas
