import AgentCanvas.Proofs.Graph.Document
import AgentCanvas.Proofs.Graph.Loss
import AgentCanvas.Proofs.Schema.Alike

/-!
# Stored attributes

How attributes are read from the object that is stored with a node, attribute by attribute, and what
becomes of a document of a node when another object is stored with it. A node with which nothing is
stored has the empty object.

## Key definitions

- `Node.stored?`: the members that are stored with a node.

## Key results

- `Agent.check_obj_eq_valid_iff`, `Runner.check_obj_eq_valid_iff`, `Tool.check_obj_eq_valid_iff`:
  attributes are read one by one.
- `Members.get?_withoutNulls_eq_none_iff`: which keys count as absent.
- `Node.exists_stored?`: documents of nodes say what is stored with them.
- `Node.check_put_stored`, `Node.check_put_data`: documents of nodes with other attributes.
- `Workflow.listed_put`: documents of workflows with other nodes or edges.
-/

namespace AgentCanvas

open Checked

/-! ## Attribute by attribute -/

theorem Agent.check_obj_eq_valid_iff {stored : Members} {a : Agent} :
    Agent.check (.obj stored) = valid a ↔
      optional stored.withoutNulls "name" "New Agent" text = valid a.name ∧
      optional stored.withoutNulls "description" "" text = valid a.description ∧
      optional stored.withoutNulls "system_message" "" text = valid a.systemMessage ∧
      optional stored.withoutNulls "output_type" .text (choice .unknownChoice OutputFormat.byName) =
        valid a.outputFormat ∧
      optionalEither stored.withoutNulls "structured_schema" "pydantic_model" none
        (fun value => (text value).map some) = valid a.schema := by
  simp only [Agent.check, record, also_eq_valid_iff]
  constructor
  · rintro ⟨_, schema, ⟨_, format, ⟨_, message, ⟨_, description, ⟨_, name, h, hname, rfl⟩,
      hdescription, rfl⟩, hmessage, rfl⟩, hformat, rfl⟩, hschema, rfl⟩
    cases h
    exact ⟨hname, hdescription, hmessage, hformat, hschema⟩
  · rintro ⟨hname, hdescription, hmessage, hformat, hschema⟩
    exact ⟨_, _, ⟨_, _, ⟨_, _, ⟨_, _, ⟨_, _, rfl, hname, rfl⟩, hdescription, rfl⟩, hmessage, rfl⟩,
      hformat, rfl⟩, hschema, rfl⟩

theorem Runner.check_obj_eq_valid_iff {stored : Members} {r : Runner} :
    Runner.check (.obj stored) = valid r ↔
      optional stored.withoutNulls "name" "New Runner" text = valid r.name ∧
      optional stored.withoutNulls "input" "" text = valid r.input ∧
      optional stored.withoutNulls "context" "" text = valid r.context ∧
      optional stored.withoutNulls "execution_mode" .sync
        (choice .unknownChoice ExecutionMode.byName) = valid r.executionMode := by
  simp only [Runner.check, record, also_eq_valid_iff]
  constructor
  · rintro ⟨_, mode, ⟨_, context, ⟨_, input, ⟨_, name, h, hname, rfl⟩, hinput, rfl⟩, hcontext, rfl⟩,
      hmode, rfl⟩
    cases h
    exact ⟨hname, hinput, hcontext, hmode⟩
  · rintro ⟨hname, hinput, hcontext, hmode⟩
    exact ⟨_, _, ⟨_, _, ⟨_, _, ⟨_, _, rfl, hname, rfl⟩, hinput, rfl⟩, hcontext, rfl⟩, hmode, rfl⟩

theorem Tool.check_obj_eq_valid_iff {stored : Members} {t : Tool} :
    Tool.check (.obj stored) = valid t ↔
      optional stored.withoutNulls "name" "new_function" text = valid t.name ∧
      optional stored.withoutNulls "parameters" [] (list Parameter.check) = valid t.parameters ∧
      optionalEither stored.withoutNulls "returnType" "return_type" "str" text =
        valid t.returnType ∧
      optional stored.withoutNulls "implementation" "" text = valid t.implementation := by
  simp only [Tool.check, record, also_eq_valid_iff]
  constructor
  · rintro ⟨_, implementation, ⟨_, type, ⟨_, parameters, ⟨_, name, h, hname, rfl⟩, hparameters,
      rfl⟩, htype, rfl⟩, himplementation, rfl⟩
    cases h
    exact ⟨hname, hparameters, htype, himplementation⟩
  · rintro ⟨hname, hparameters, htype, himplementation⟩
    exact ⟨_, _, ⟨_, _, ⟨_, _, ⟨_, _, rfl, hname, rfl⟩, hparameters, rfl⟩, htype, rfl⟩,
      himplementation, rfl⟩

namespace Node

variable {node : Node} {stored : Members}

/-- The attributes of an agent are read from the object that is stored with it. -/
theorem attributes_eq_agent_iff_check (hkind : node.kind = .agent) (hdata : node.data = .obj stored)
    {a : Agent} : node.attributes = .ok (.agent a) ↔ Agent.check (.obj stored) = valid a := by
  rw [attributes_eq_agent_iff hkind, asAgent, orReject_eq_ok_iff, hdata]

theorem attributes_eq_runner_iff_check (hkind : node.kind = .runner)
    (hdata : node.data = .obj stored) {r : Runner} :
    node.attributes = .ok (.runner r) ↔ Runner.check (.obj stored) = valid r := by
  rw [attributes_eq_runner_iff hkind, asRunner, orReject_eq_ok_iff, hdata]

theorem attributes_eq_tool_iff_check (hkind : node.kind = .tool) (hdata : node.data = .obj stored)
    {t : Tool} : node.attributes = .ok (.tool t) ↔ Tool.check (.obj stored) = valid t := by
  rw [attributes_eq_tool_iff hkind, asTool, orReject_eq_ok_iff, hdata]

end Node

/-! ## Null members -/

/-- Nothing but null stands under a key. -/
def Members.Unset (key : String) (members : Members) : Prop :=
  ∀ value, (key, value) ∈ members → value = .null

/-- A key counts as absent exactly if nothing but null stands under it. -/
theorem Members.get?_withoutNulls_eq_none_iff {members : Members} {key : String} :
    members.withoutNulls.get? key = none ↔ members.Unset key := by
  have hnull (value : Json) : value.isNull ↔ value = .null := by
    cases value <;> simp [Json.isNull]
  rw [Entries.get?, List.lookup_eq_none_iff]
  simp only [Entries.withoutNulls, List.mem_filter, Bool.not_eq_true', Unset, Prod.forall]
  constructor
  · intro h value hmem
    by_contra hvalue
    exact absurd (h key value ⟨hmem, Bool.eq_false_iff.mpr fun hn => hvalue ((hnull value).mp hn)⟩)
      (by simp)
  · rintro h other value ⟨hmem, hvalue⟩
    rw [bne_iff_ne]
    rintro rfl
    rw [h value hmem] at hvalue
    cases hvalue

/-- Where nothing stands under a key, nothing counts for it. -/
theorem Members.unset_of_get?_eq_none {members : Members} {key : String}
    (h : members.get? key = none) : members.Unset key := by
  intro value hmem
  have hne := List.lookup_eq_none_iff.mp h _ hmem
  exact absurd hne (by simp)

/-- Where a value that is not null stands first under its key, it counts. -/
theorem Members.get?_withoutNulls_of_get? {members : Members} {key : String} {value : Json}
    (h : members.get? key = some value) (hvalue : value.isNull = false) :
    members.withoutNulls.get? key = some value := by
  induction members with
  | nil => cases h
  | cons member rest ih =>
    obtain ⟨other, found⟩ := member
    rw [Entries.get?_cons] at h
    rw [Entries.get?_withoutNulls_cons]
    by_cases hkey : other = key
    · rw [if_pos hkey] at h
      cases h
      rw [if_neg (Bool.eq_false_iff.mp hvalue), if_pos hkey]
    · rw [if_neg hkey] at h
      rw [if_neg hkey, ih h, ite_self]

/-! ## Documents of nodes -/

/-- The members that are stored with a node; none if the node says nothing about them. -/
def Node.stored? (members : Members) : Option Members :=
  match members.get? "data" with
  | none => some []
  | some (.obj stored) => some stored
  | some _ => none

namespace Node

variable {members old new : Members}

/-- Storing attributes leaves what else is said of a node. -/
private theorem agreeOn_put_data (members : Members) (stored : Json) :
    members.AgreeOn ["id", "type", "position"] (members.put "data" stored) :=
  Members.agreeOn_put (by decide) stored members

theorem optional_put_data (stored : Members) :
    optional (members.put "data" (.obj stored)) "data" (.obj []) object = valid (.obj stored) := by
  rw [Checked.optional, Entries.get?_put, if_pos rfl]
  rfl

theorem optional_data_of_stored? (h : stored? members = some old) :
    optional members "data" (.obj []) object = valid (.obj old) := by
  unfold stored? at h
  unfold Checked.optional
  split at h
  next hnone => cases h; rw [hnone]
  next stored hsome => cases h; rw [hsome]; rfl
  next => cases h

/-- The members that are stored with a node are said in its document. -/
theorem exists_stored? {node : Node} (h : Node.check (.obj members) = valid node) :
    ∃ stored, stored? members = some stored ∧ node.data = .obj stored := by
  obtain ⟨-, -, -, hdata, -⟩ := check_obj_eq_valid_iff.mp h
  unfold stored?
  rcases optional_eq_valid_iff.mp hdata with ⟨hnone, hdefault⟩ | ⟨value, hsome, hvalue⟩
  · rw [hnone]
    exact ⟨[], rfl, hdefault.symm⟩
  · obtain ⟨stored, rfl, hstored⟩ := object_eq_valid_iff.mp hvalue
    rw [hsome]
    exact ⟨stored, rfl, hstored⟩

/-- What is stored may as well be said. -/
theorem check_put_stored (h : stored? members = some old) :
    Node.check (.obj (members.put "data" (.obj old))) = Node.check (.obj members) := by
  have hdata : optional (members.put "data" (.obj old)) "data" (.obj []) object =
      optional members "data" (.obj []) object := by
    rw [optional_put_data, optional_data_of_stored? h]
  have hagree := agreeOn_put_data members (.obj old)
  simp only [Node.check, record, hdata, ← required_congr hagree (show "id" ∈ _ by decide),
    ← required_congr hagree (show "type" ∈ _ by decide),
    ← optional_congr hagree (show "position" ∈ _ by decide)]

/-- Other attributes that can be read may be stored with a node instead of its own. -/
theorem check_put_data {node : Node} (h : Node.check (.obj members) = valid node)
    (hreadable : Readable { node with data := .obj new }) :
    Node.check (.obj (members.put "data" (.obj new))) = valid { node with data := .obj new } := by
  obtain ⟨hid, hkind, hposition, -, -⟩ := check_obj_eq_valid_iff.mp h
  refine check_obj_eq_valid_iff.mpr ⟨?_, ?_, ?_, optional_put_data new, hreadable⟩
  · exact (required_congr (agreeOn_put_data members _) (by decide) _).symm.trans hid
  · exact (required_congr (agreeOn_put_data members _) (by decide) _).symm.trans hkind
  · exact (optional_congr (agreeOn_put_data members _) (by decide) _ _).symm.trans hposition

end Node

/-- Once a list is set, its items are those listed, and other lists are listed as before. -/
theorem Workflow.listed_put (members : Members) (key : String) (items : List Json)
    (other : String) : listed (members.put key (.arr items)) other =
      if key = other then items else listed members other := by
  rw [listed, Entries.get?_put]
  by_cases hkey : key = other
  · rw [if_pos hkey, if_pos hkey]
    rfl
  · rw [if_neg hkey, if_neg hkey, listed]

end AgentCanvas
