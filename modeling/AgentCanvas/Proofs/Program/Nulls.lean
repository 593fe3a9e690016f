import AgentCanvas.Proofs.Graph.Stored
import AgentCanvas.Proofs.Program.Unread
import Mathlib.Logic.Relation

/-!
# Null attributes

A null member of the stored attributes counts as absent. Nulls may thus be added under new keys and
deleted in any number: the attributes are read alike or refused for the same issues, and a document
changed in this way is refused with the same error or holds a workflow with the same program. Of two
keys under which an attribute may stand, a null one does not hide the other.

## Key definitions

- `Members.NullEdit`: one null member is added or deleted.
- `Node.WithNulls`, `Workflow.WithNulls`: documents before and after such edits.

## Key results

- `Members.withoutNulls_eq_of_nullEdits`: edits do not change the members that count.
- `Node.related_check_of_withNulls`: nodes are checked alike after edits.
- `Workflow.ofDocument_nulls`: nulls read as if nothing was there.
-/

namespace AgentCanvas

open Checked
open Relation (ReflTransGen)

/-! ## Edits -/

/-- A null member is added under a key that is not there, or deleted. -/
inductive Members.NullEdit : Members → Members → Prop where
  | add (front back : Members) (key : String) (h : Entries.get? (front ++ back) key = none) :
    NullEdit (front ++ back) (front ++ (key, .null) :: back)
  | delete (front back : Members) (key : String) :
    NullEdit (front ++ (key, .null) :: back) (front ++ back)

namespace Members

variable {stored others : Members}

/-- An edit does not change the members that count. -/
theorem withoutNulls_eq_of_nullEdit (h : NullEdit stored others) :
    stored.withoutNulls = others.withoutNulls := by
  have hnull (front back : Members) (key : String) :
      Entries.withoutNulls (front ++ (key, .null) :: back) =
        Entries.withoutNulls (front ++ back) := by
    simp [Entries.withoutNulls, Json.isNull]
  cases h with
  | add => exact (hnull _ _ _).symm
  | delete => exact hnull _ _ _

/-- Nor do any number of edits. -/
theorem withoutNulls_eq_of_nullEdits (h : ReflTransGen NullEdit stored others) :
    stored.withoutNulls = others.withoutNulls := by
  induction h with
  | refl => rfl
  | tail _ hstep ih => exact ih.trans (withoutNulls_eq_of_nullEdit hstep)

end Members

/-- Stored members with the same ones that count are found alike by nodes of any kind. -/
theorem Attributes.Agree.of_withoutNulls_eq {stored others : Members}
    (h : stored.withoutNulls = others.withoutNulls) (kind : NodeKind) :
    Attributes.Agree kind stored others where
  plain key _ := by rw [h]
  parameters _ := by
    rw [h]
    cases others.withoutNulls.get? "parameters" with
    | none => exact .none
    | some value => exact .some (.same value)

/-! ## Second keys -/

/-- A null member does not hide the value under the second key of an attribute. -/
theorem Members.optionalEither_of_unset {α : Type} {stored : Members} {key other : String}
    {value : Json} (hkey : stored.Unset key) (hother : stored.get? other = some value)
    (hvalue : value.isNull = false) (default : α) (check : Json → Checked α) :
    optionalEither stored.withoutNulls key other default check =
      (check value).under (.key other) := by
  rw [optionalEither, get?_withoutNulls_eq_none_iff.mpr hkey]
  simp only
  rw [Checked.optional, get?_withoutNulls_of_get? hother hvalue]

namespace Node

variable {node : Node} {stored : Members} {s : String}

theorem schema_of_unset (hdata : node.data = .obj stored) (hkey : stored.Unset "structured_schema")
    (hother : stored.get? "pydantic_model" = some (.str s)) {a : Agent}
    (h : node.attributes = .ok (.agent a)) : a.schema = some s := by
  have hcheck := (attributes_eq_agent_iff_check (kind_of_attributes h) hdata).mp h
  obtain ⟨-, -, -, -, hschema⟩ := Agent.check_obj_eq_valid_iff.mp hcheck
  rw [Members.optionalEither_of_unset hkey hother rfl] at hschema
  exact (Checked.valid.inj hschema).symm

theorem returnType_of_unset (hdata : node.data = .obj stored) (hkey : stored.Unset "returnType")
    (hother : stored.get? "return_type" = some (.str s)) {t : Tool}
    (h : node.attributes = .ok (.tool t)) : t.returnType = s := by
  have hcheck := (attributes_eq_tool_iff_check (kind_of_attributes h) hdata).mp h
  obtain ⟨-, -, htype, -⟩ := Tool.check_obj_eq_valid_iff.mp hcheck
  rw [Members.optionalEither_of_unset hkey hother rfl] at htype
  exact (Checked.valid.inj htype).symm

end Node

/-! ## Documents -/

/-- The document of a node, and one with edits of nulls in what is stored. -/
inductive Node.WithNulls : Json → Json → Prop where
  | same (document : Json) : WithNulls document document
  | stored {members old new : Members} (h : Node.stored? members = some old)
    (hedits : ReflTransGen Members.NullEdit old new) :
    WithNulls (.obj members) (.obj (members.put "data" (.obj new)))

/-- The document of a workflow, and one with edits of nulls in any number of nodes. -/
inductive Workflow.WithNulls : Json → Json → Prop where
  | same (document : Json) : WithNulls document document
  | nodes {members : Members} {items others : List Json}
    (h : members.get? "nodes" = some (.arr items))
    (hitems : List.Forall₂ Node.WithNulls items others) :
    WithNulls (.obj members) (.obj (members.put "nodes" (.arr others)))

/-- A node is refused for the same issues after edits, or both are twins. -/
theorem Node.related_check_of_withNulls {document other : Json}
    (h : Node.WithNulls document other) : Related Twins (Node.check document) (Node.check other) := by
  cases h with
  | same => exact (Related.self _).imp fun node _ hsame => hsame.2 ▸ Twins.refl node
  | @stored members old new h hedits =>
    -- what the edits start from is said explicitly, so that there is something to compare
    rw [← Node.check_put_stored h]
    have hdata (stored : Members) :
        (members.put "data" (.obj stored)).get? "data" = some (.obj stored) := by
      rw [Entries.get?_put, if_pos rfl]
    have hplain (key : String) (hkey : "data" ≠ key) :
        (members.put "data" (.obj old)).get? key = (members.put "data" (.obj new)).get? key := by
      rw [Entries.get?_put, Entries.get?_put, if_neg hkey, if_neg hkey]
    apply Node.related_check
    refine .obj ⟨?_, ?_, ?_⟩
    · intro key hkey
      apply hplain
      rintro rfl
      exact absurd hkey (by decide)
    · rw [hplain "position" (by decide)]
      exact Json.Alike.rel_self _
    · rw [hdata, hdata]
      exact .some (.obj fun kind _ =>
        .of_withoutNulls_eq (Members.withoutNulls_eq_of_nullEdits hedits) kind)

namespace Workflow

/-- A document is refused with the same error after edits, or both hold twins. -/
theorem exists_ofDocument_of_withNulls {document other : Json}
    (h : Workflow.WithNulls document other) (draws : Draws) :
    (∃ error, ofDocument document draws = .error error ∧
      ofDocument other draws = .error error) ∨
      ∃ w v, ofDocument document draws = .ok w ∧ ofDocument other draws = .ok v ∧ w.Twins v := by
  cases h with
  | same => exact exists_ofDocument_self document draws
  | @nodes members items others h hitems =>
    apply exists_ofDocument_of_related
    apply related_check_of_forall₂
    · have hlisted : listed members "nodes" = items := by rw [listed, h]; rfl
      rw [hlisted, listed_put, if_pos rfl]
      exact hitems.imp fun _ _ => Node.related_check_of_withNulls
    · rw [listed_put, if_neg (by decide)]
      exact List.forall₂_same.mpr fun _ _ _ => rfl

/-- Nulls read as if nothing was there. Whatever nulls are added to and deleted from what is stored
with a node of any kind, the outcome of reading its attributes is the same, and a null under the
first key of an attribute does not hide a text under the second. A document in which any number of
nodes are edited in this way is refused with the same error, or both documents are loaded, with
nodes that are twins, and have the same program, if the same ids are drawn. -/
theorem ofDocument_nulls :
    (∀ (node : Node) {stored others : Members}, ReflTransGen Members.NullEdit stored others →
      { node with data := Json.obj stored }.attributes =
        { node with data := Json.obj others }.attributes) ∧
    (∀ (node : Node) {stored : Members} {s : String}, node.data = .obj stored →
      (stored.Unset "structured_schema" → stored.get? "pydantic_model" = some (.str s) →
        ∀ a, node.attributes = .ok (.agent a) → a.schema = some s) ∧
      (stored.Unset "returnType" → stored.get? "return_type" = some (.str s) →
        ∀ t, node.attributes = .ok (.tool t) → t.returnType = s)) ∧
    (∀ {document other : Json}, Workflow.WithNulls document other → ∀ draws,
      (∃ error, ofDocument document draws = .error error ∧
        ofDocument other draws = .error error) ∨
        ∃ w v, ofDocument document draws = .ok w ∧ ofDocument other draws = .ok v ∧ w.Twins v ∧
          ∀ d, ∃ g, w.generate d = .ok g ∧ v.generate d = .ok g) := by
  refine ⟨?_, ?_, ?_⟩
  · intro node stored others hedits
    have hagree := Attributes.Agree.of_withoutNulls_eq (Members.withoutNulls_eq_of_nullEdits hedits)
      node.kind
    rw [Node.attributes, Node.attributes, Attributes.check_congr (.obj hagree)]
  · intro node stored s hdata
    exact ⟨fun hkey hother a h => Node.schema_of_unset hdata hkey hother h,
      fun hkey hother t h => Node.returnType_of_unset hdata hkey hother h⟩
  · intro document other h draws
    obtain hrefused | ⟨w, v, hw, hv, htwins⟩ := exists_ofDocument_of_withNulls h draws
    · exact .inl hrefused
    · refine .inr ⟨w, v, hw, hv, htwins, fun d => ?_⟩
      obtain ⟨g, hg⟩ := exists_generate_eq_ok_iff.mpr (sound_of_ofDocument hw).readable
      exact ⟨g, hg, (htwins.readsAs.generate_eq d).symm.trans hg⟩

/-- An agent and a tool with the given members stored. -/
def agentAndTool (agent tool : Members) : Json :=
  .obj [("nodes", .arr [
    .obj [("id", .str "a"), ("type", .str "agent"), ("data", .obj agent)],
    .obj [("id", .str "t"), ("type", .str "functionTool"), ("data", .obj tool)]])]

/-- Members of an agent whose schema stands under the second key, with a null under the first. -/
def hiddenSchema : Members :=
  [("structured_schema", .null), ("output_type", .str "structured"),
    ("pydantic_model", .str "class Answer(BaseModel): ...")]

/-- The null in front of the schema may be deleted, and others may be added to the agent and the
tool: the schema and the type count as before. -/
theorem ofDocument_nulls_hiddenSchema :
    (∃ w v, ofDocument (agentAndTool hiddenSchema [("return_type", .str "int")]) = .ok w ∧
      ofDocument (agentAndTool (hiddenSchema.tail ++ [("name", .null)])
        [("returnType", .null), ("return_type", .str "int")]) = .ok v ∧
      ∃ g, w.generate Defaults.builtIn = .ok g ∧ v.generate Defaults.builtIn = .ok g) ∧
    (∃ a, Node.attributes ⟨"a", .agent, ⟨.zero, .zero⟩, .obj hiddenSchema⟩ = .ok (.agent a) ∧
      a.schema = some "class Answer(BaseModel): ...") := by
  have hagent : ReflTransGen Members.NullEdit hiddenSchema
      (hiddenSchema.tail ++ [("name", .null)]) :=
    .tail (.single (.delete [] hiddenSchema.tail "structured_schema"))
      (.add hiddenSchema.tail [] "name" rfl)
  have htool : ReflTransGen Members.NullEdit [("return_type", .str "int")]
      [("returnType", .null), ("return_type", .str "int")] :=
    .single (.add [] [("return_type", .str "int")] "returnType" rfl)
  have hnulls : Workflow.WithNulls (agentAndTool hiddenSchema [("return_type", .str "int")])
      (agentAndTool (hiddenSchema.tail ++ [("name", .null)])
        [("returnType", .null), ("return_type", .str "int")]) :=
    .nodes rfl (.cons (.stored rfl hagent) (.cons (.stored rfl htool) .nil))
  obtain ⟨-, hkeys, hdocuments⟩ := ofDocument_nulls
  constructor
  · obtain ⟨error, hrefused, -⟩ | ⟨w, v, hw, hv, -, hprogram⟩ := hdocuments hnulls .same
    · cases hrefused
    · exact ⟨w, v, hw, hv, hprogram _⟩
  · let node : Node := ⟨"a", .agent, ⟨.zero, .zero⟩, .obj hiddenSchema⟩
    obtain ⟨a, ha⟩ : ∃ a, node.attributes = .ok (.agent a) := ⟨_, rfl⟩
    -- nothing but the null stands under the first key
    have hunset : hiddenSchema.Unset "structured_schema" := by
      simp [Members.Unset, hiddenSchema]
    exact ⟨a, ha, (hkeys node rfl).1 hunset rfl a ha⟩

end Workflow

end AgentCanvas
