import AgentCanvas.Proofs.Graph.Admission
import AgentCanvas.Proofs.Graph.Alike
import AgentCanvas.Proofs.Program.ReadsAs

/-!
# Members that are not read

What a document holds beside the parts that loading looks at has no effect: not on whether the
document is refused, nor on the issues, the nodes and edges, the program and the roles with which
the edges are saved. It stays in the stored attributes only.

## Key definitions

- `Node.Twins`, `Workflow.Twins`: nodes and workflows that differ only in what is stored with nodes
  and not read.

## Key results

- `Node.related_check`, `Workflow.related_check`: nodes and workflows are checked alike.
- `Workflow.ofDocument_alike`: documents that load alike have the same outcome.
-/

namespace AgentCanvas

open Checked

/-! ## Nodes -/

/-- Two nodes at one position that read alike. -/
structure Node.Twins (node twin : Node) : Prop extends node.ReadsAs twin where
  position : node.position = twin.position

namespace Node

variable {node twin : Node}

theorem Twins.refl (node : Node) : node.Twins node :=
  ⟨⟨rfl, rfl, rfl⟩, rfl⟩

/-- Two nodes before their attributes are checked: they differ in what is stored, and a node of
their kind finds the same in both. -/
structure AlikeData (node twin : Node) : Prop where
  id : node.id = twin.id
  kind : node.kind = twin.kind
  position : node.position = twin.position
  data : Attributes.Alike node.kind node.data twin.data

theorem AlikeData.check_eq (h : node.AlikeData twin) :
    Attributes.check node.kind node.data = Attributes.check twin.kind twin.data := by
  rw [← h.kind]
  exact Attributes.check_congr h.data

theorem AlikeData.twins (h : node.AlikeData twin) : node.Twins twin where
  id := h.id
  kind := h.kind
  position := h.position
  attributes := by rw [attributes, attributes, h.check_eq, h.kind]

/-- The attributes of two such nodes are refused for the same issues or accepted. -/
theorem AlikeData.related_checkAttributes (h : node.AlikeData twin) :
    Related Twins (checkAttributes node) (checkAttributes twin) := by
  rw [checkAttributes, checkAttributes, h.check_eq]
  exact (Related.self _).map fun _ _ _ => h.twins

/-- A kind is chosen by its name only. -/
theorem get?_type_eq_of_required {members : Members} {kind : NodeKind}
    (h : required members "type" (choice .unknownKind NodeKind.byName) = valid kind) :
    members.get? "type" = some (.str kind.name) := by
  unfold required at h
  split at h
  next value hvalue =>
    obtain ⟨name, rfl, hlookup⟩ := choice_eq_valid_iff.mp (under_eq_valid_iff.mp h)
    obtain ⟨found, -, hfound⟩ := List.mem_map.mp (List.mem_of_lookup_eq_some hlookup)
    cases hfound
    exact hvalue
  next => cases h

/-- Documents of nodes that load alike are refused for the same issues or hold twins. -/
theorem related_check {document other : Json} (h : Node.Alike document other) :
    Related Twins (Node.check document) (Node.check other) := by
  cases h with
  | same => exact (Related.self _).imp fun node _ hsame => hsame.2 ▸ Twins.refl node
  | @obj members others h =>
    have hposition : optional members "position" ⟨.zero, .zero⟩ Position.check =
        optional others "position" ⟨.zero, .zero⟩ Position.check :=
      optional_congr_rel h.position _ fun _ _ => Position.check_congr
    have hdata := Related.optional h.data (.same (.obj [])) fun _ _ => Related.object
    simp (disch := decide) only [Node.check, record, ← required_congr h.plain, ← hposition]
    refine Related.andThen (R := AlikeData) ?_ fun _ _ => AlikeData.related_checkAttributes
    -- the stored attributes are known to be alike for the kind that the first node names, which
    -- is the kind that both nodes have
    refine Related.also ((Related.self _).imp ?_) hdata
    rintro build _ ⟨hbuild, rfl⟩ stored kept hstored
    obtain ⟨_, position, hkinds, -, rfl⟩ := also_eq_valid_iff.mp hbuild
    obtain ⟨_, kind, hids, hkind, rfl⟩ := also_eq_valid_iff.mp hkinds
    obtain ⟨_, id, hmk, -, rfl⟩ := also_eq_valid_iff.mp hids
    cases hmk
    refine ⟨rfl, rfl, rfl, ?_⟩
    cases hstored with
    | same => exact .same _
    | obj hagree => exact .obj (hagree kind (get?_type_eq_of_required hkind))

end Node

/-! ## Workflows -/

namespace Workflow

/-- Two workflows with the same edges whose nodes are twins in order. -/
structure Twins (w v : Workflow) : Prop where
  nodes : List.Forall₂ Node.Twins w.nodes v.nodes
  edges : w.edges = v.edges

variable {w v : Workflow}

theorem Twins.readsAs (h : w.Twins v) : w.ReadsAs v :=
  ⟨h.nodes.imp fun _ _ hnode => hnode.toReadsAs, h.edges⟩

theorem Twins.ids_eq (h : w.Twins v) : w.nodes.map (·.id) = v.nodes.map (·.id) := by
  have hids : List.Forall₂ Eq (w.nodes.map (·.id)) (v.nodes.map (·.id)) :=
    List.forall₂_map_map_iff.mpr (h.nodes.imp fun _ _ hnode => hnode.id)
  rwa [List.forall₂_eq_eq_eq] at hids

theorem Twins.related_checkDistinct (h : w.Twins v) :
    Related Twins w.checkDistinct v.checkDistinct := by
  unfold checkDistinct
  rw [h.ids_eq]
  split
  next => exact .invalid _
  next => exact .valid h

/-- Documents whose nodes and edges are checked alike are refused for the same issues or hold
twins. -/
theorem related_check_of_forall₂ {members others : Members} {draws : Draws}
    (hnodes : List.Forall₂ (fun a b => Related Node.Twins (Node.check a) (Node.check b))
      (listed members "nodes") (listed others "nodes"))
    (hedges : List.Forall₂ (fun a b => ∀ drawn, Edge.check a drawn = Edge.check b drawn)
      (listed members "edges") (listed others "edges")) :
    Related Twins (check members draws) (check others draws) := by
  have hdrawn : List.Forall₂ (fun a b => Edge.check a.1 a.2 = Edge.check b.1 b.2)
      (listedEdges members draws) (listedEdges others draws) :=
    (hedges.imp fun _ _ h place => h (draws place)).mapIdx
  unfold check
  rw [each_congr hdrawn]
  refine Related.andThen (R := Twins) ?_ fun _ _ => Twins.related_checkDistinct
  refine Related.also (Related.also (.valid ?_) ((Related.each hnodes).under _)) (Related.self _)
  rintro nodes twins hnodes edges _ ⟨-, rfl⟩
  exact ⟨hnodes, rfl⟩

/-- Documents that load alike are refused for the same issues or hold twins. -/
theorem related_check {members others : Members} {draws : Draws} (h : Agree members others) :
    Related Twins (check members draws) (check others draws) :=
  related_check_of_forall₂ (h.nodes.imp fun _ _ => Node.related_check)
    (h.edges.imp fun _ _ => Edge.check_congr)

/-- Documents that are checked alike are refused with the same error or hold twins. -/
theorem exists_ofDocument_of_related {members others : Members} {draws : Draws}
    (h : Related Twins (check members draws) (check others draws)) :
    (∃ error, ofDocument (.obj members) draws = .error error ∧
      ofDocument (.obj others) draws = .error error) ∨
      ∃ w v, ofDocument (.obj members) draws = .ok w ∧ ofDocument (.obj others) draws = .ok v ∧
        w.Twins v := by
  simp only [ofDocument]
  generalize check members draws = x, check others draws = y at h
  cases h with
  | valid htwins => exact .inr ⟨_, _, rfl, rfl, htwins⟩
  | invalid issues => exact .inl ⟨_, rfl, rfl⟩

/-- A document is refused, or it holds a workflow that is its own twin. -/
theorem exists_ofDocument_self (document : Json) (draws : Draws) :
    (∃ error, ofDocument document draws = .error error ∧
      ofDocument document draws = .error error) ∨
      ∃ w v, ofDocument document draws = .ok w ∧ ofDocument document draws = .ok v ∧
        w.Twins v := by
  cases hload : ofDocument document draws with
  | error error => exact .inl ⟨error, rfl, rfl⟩
  | ok w => exact .inr ⟨w, w, rfl, rfl, List.forall₂_same.mpr fun node _ => .refl node, rfl⟩

/-- Documents that load alike are refused with the same error or hold twins. -/
theorem exists_ofDocument_of_alike {document other : Json} (h : Workflow.Alike document other)
    (draws : Draws) :
    (∃ error, ofDocument document draws = .error error ∧
      ofDocument other draws = .error error) ∨
      ∃ w v, ofDocument document draws = .ok w ∧ ofDocument other draws = .ok v ∧ w.Twins v := by
  cases h with
  | same => exact exists_ofDocument_self document draws
  | obj h => exact exists_ofDocument_of_related (related_check h)

/-- If the same ids are drawn, documents that load alike are refused with the same error, or both
are loaded: with nodes of the same ids, kinds, positions and attributes, the same edges, the same
program and the same roles with which the edges are saved again. -/
theorem ofDocument_alike {document other : Json} (h : Workflow.Alike document other)
    (draws : Draws) :
    (∃ error, ofDocument document draws = .error error ∧
      ofDocument other draws = .error error) ∨
      ∃ w v, ofDocument document draws = .ok w ∧ ofDocument other draws = .ok v ∧
        List.Forall₂ (fun node twin => node.id = twin.id ∧ node.kind = twin.kind ∧
          node.position = twin.position ∧ ∃ a, node.attributes = .ok a ∧ twin.attributes = .ok a)
            w.nodes v.nodes ∧
        w.edges = v.edges ∧
        (∀ d, ∃ g, w.generate d = .ok g ∧ v.generate d = .ok g) ∧
        w.toDocument.member? "edges" = v.toDocument.member? "edges" := by
  obtain hrefused | ⟨w, v, hw, hv, htwins⟩ := exists_ofDocument_of_alike h draws
  · exact .inl hrefused
  have hsound : w.Sound := sound_of_ofDocument hw
  refine .inr ⟨w, v, hw, hv, ?_, htwins.edges, fun d => ?_, ?_⟩
  · have hread : List.Forall₂ (fun node twin => node.Readable ∧ node.Twins twin) w.nodes v.nodes :=
      (List.forall₂_and_left _ _).mpr ⟨hsound.readable, htwins.nodes⟩
    refine hread.imp fun node twin ⟨⟨a, ha⟩, hnode⟩ => ?_
    exact ⟨hnode.id, hnode.kind, hnode.position, a, ha, hnode.attributes.symm.trans ha⟩
  · obtain ⟨g, hg⟩ := exists_generate_eq_ok_iff.mpr hsound.readable
    exact ⟨g, hg, (htwins.readsAs.generate_eq d).symm.trans hg⟩
  · exact congrArg (some <| Json.arr ·) htwins.readsAs.map_edgeDocument_eq

/-- A tool with a parameter at the disposal of an agent. Every object but the stored attributes is
marked, and a role is stored with the edge. -/
def markedCanvas (mark : Members → Members) (role : String) : Json :=
  .obj (mark [
    ("nodes", .arr [
      .obj (mark [("id", .str "t"), ("type", .str "functionTool"),
        ("position", .obj (mark [("x", .int 4)])),
        ("data", .obj [("parameters", .arr [.obj (mark [("name", .str "n")])])])]),
      .obj (mark [("id", .str "a"), ("type", .str "agent")])]),
    ("edges", .arr [
      .obj (mark [("id", .str "1"), ("source", .str "t"), ("target", .str "a"),
        ("type", .str role)])])])

/-- No check looks up a version or the role of an edge. -/
theorem alike_marked :
    Workflow.Alike (markedCanvas id "tool")
      (markedCanvas (Entries.put "version" (.int 2)) "execute") := by
  refine .obj ⟨.cons (.obj ⟨?_, ?_, ?_⟩) (.cons (.obj (.of_agreeOn ?_)) .nil), .cons (.obj ?_) .nil⟩
  · decide
  · exact .some (.obj (Members.agreeOn_put (by decide) _ _))
  · refine .some (.obj fun kind _ => ⟨?_, fun _ => .some (.arr (.cons (.obj ?_) .nil))⟩)
    · cases kind <;> decide
    · exact Members.agreeOn_put (by decide) _ _
  · exact Members.agreeOn_put (by decide) _ _
  · decide

/-- The edge of the marked canvas is saved with its own role again, whatever role was stored. -/
theorem ofDocument_alike_marked :
    Workflow.Alike (markedCanvas id "tool")
      (markedCanvas (Entries.put "version" (.int 2)) "execute") ∧
      ∃ w v, ofDocument (markedCanvas id "tool") = .ok w ∧
        ofDocument (markedCanvas (Entries.put "version" (.int 2)) "execute") = .ok v ∧ w ≠ v ∧
        (∃ g, w.generate Defaults.builtIn = .ok g ∧ v.generate Defaults.builtIn = .ok g) ∧
        v.savedType? 0 = some (.str "tool") := by
  refine ⟨alike_marked, ?_⟩
  obtain ⟨error, hrefused, -⟩ | ⟨w, v, hw, hv, -, -, hprogram, hedges⟩ :=
    ofDocument_alike alike_marked .same
  · cases hrefused
  · refine ⟨w, v, hw, hv, ?_, hprogram _, ?_⟩
    · cases hw
      cases hv
      decide
    · rw [savedType?, ← hedges]
      cases hw
      rfl

end Workflow

end AgentCanvas
