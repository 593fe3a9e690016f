import AgentCanvas.Proofs.Graph.Stored

/-!
# Emptied attributes

A text attribute that a node lacks takes its default. If the empty text is stored instead, the node
can still be read, and its attributes are the same but for those whose default is another text: the
names of agents and tools and the types that tools return.

## Key definitions

- `NodeKind.textAttributes`: the text attributes of a kind, each with its keys.
- `Node.Lacks`: a node lacks the attribute that stands under a key.
- `Node.emptied`, `Workflow.emptied`: the empty text is stored under some keys.
- `Workflow.emptyDocument`: the same for the document that holds a workflow.
- `Attributes.Emptied`: attributes before and after.

## Key results

- `Node.exists_attributes_emptied`: emptied nodes can be read.
- `Workflow.ofDocument_emptyDocument`: emptied documents hold emptied workflows.
-/

namespace AgentCanvas

open Checked

/-! ## Members -/

/-- Members with the empty text under the given keys. -/
def Members.emptied (keys : List String) (members : Members) : Members :=
  keys.foldl (fun members key => members.put key (.str "")) members

/-- What is not null counts once it is set, and other keys count as before. -/
theorem Entries.get?_withoutNulls_put {key : String} {value : Json} (hvalue : value.isNull = false)
    (members : Members) (other : String) : (members.put key value).withoutNulls.get? other =
      if key = other then some value else members.withoutNulls.get? other := by
  have hnull : ¬value.isNull = true := Bool.eq_false_iff.mp hvalue
  -- the value takes the place of the first member with its key, or stands behind all members
  induction members with
  | nil => rw [put, get?_withoutNulls_cons, if_neg hnull]
  | cons member rest ih =>
    obtain ⟨first, found⟩ := member
    rw [put]
    by_cases hfirst : first = key
    · rw [if_pos hfirst, get?_withoutNulls_cons, get?_withoutNulls_cons, if_neg hnull, hfirst]
      by_cases hother : key = other
      · rw [if_pos hother, if_pos hother]
      · rw [if_neg hother, if_neg hother, if_neg hother, ite_self]
    · rw [if_neg hfirst, get?_withoutNulls_cons, get?_withoutNulls_cons, ih]
      by_cases hother : key = other
      · subst hother
        rw [if_pos rfl, if_neg hfirst, ite_self, if_pos rfl]
      · rw [if_neg hother, if_neg hother]

namespace Members

variable {keys : List String} {stored : Members} {key other : String}

/-- The empty text counts for every key that it is set under. -/
theorem get?_withoutNulls_emptied (keys : List String) (stored : Members) (other : String) :
    (emptied keys stored).withoutNulls.get? other =
      if other ∈ keys then some (.str "") else stored.withoutNulls.get? other := by
  -- each key is set in what the keys before it have left
  induction keys generalizing stored with
  | nil => rw [if_neg List.not_mem_nil]; rfl
  | cons key rest ih =>
    rw [emptied, List.foldl_cons, ← emptied, ih, Entries.get?_withoutNulls_put rfl]
    by_cases hrest : other ∈ rest
    · rw [if_pos hrest, if_pos (List.mem_cons_of_mem _ hrest)]
    · rw [if_neg hrest]
      by_cases hkey : key = other
      · rw [if_pos hkey, if_pos (hkey ▸ List.mem_cons_self)]
      · rw [if_neg hkey, if_neg (by simp [hrest, Ne.symm hkey])]

/-- Fields under other keys are read as before. -/
theorem optional_emptied_of_not_mem {α : Type} (h : key ∉ keys) (default : α)
    (check : Json → Checked α) :
    optional (emptied keys stored).withoutNulls key default check =
      optional stored.withoutNulls key default check := by
  rw [Checked.optional, get?_withoutNulls_emptied, if_neg h, Checked.optional]

theorem optionalEither_emptied_of_not_mem {α : Type} (h : key ∉ keys) (h' : other ∉ keys)
    (default : α) (check : Json → Checked α) :
    optionalEither (emptied keys stored).withoutNulls key other default check =
      optionalEither stored.withoutNulls key other default check := by
  rw [optionalEither, get?_withoutNulls_emptied, if_neg h, optional_emptied_of_not_mem h',
    optionalEither]

/-- Under a key where nothing stood, the empty text takes the place of the default. -/
theorem optional_text_emptied {default s : String} (habsent : key ∈ keys → stored.get? key = none)
    (h : optional stored.withoutNulls key default text = valid s) :
    (key ∈ keys → s = default) ∧
      optional (emptied keys stored).withoutNulls key default text =
        valid (if key ∈ keys then "" else s) := by
  by_cases hkey : key ∈ keys
  · rw [Checked.optional, get?_withoutNulls_eq_none_iff.mpr (unset_of_get?_eq_none (habsent hkey))]
      at h
    rw [Checked.optional, get?_withoutNulls_emptied, if_pos hkey, if_pos hkey]
    exact ⟨fun _ => (Checked.valid.inj h).symm, rfl⟩
  · rw [optional_emptied_of_not_mem hkey, if_neg hkey]
    exact ⟨fun hmem => absurd hmem hkey, h⟩

/-- Where the default is the empty text, nothing changes. -/
theorem optional_text_emptied_empty {s : String} (habsent : key ∈ keys → stored.get? key = none)
    (h : optional stored.withoutNulls key "" text = valid s) :
    optional (emptied keys stored).withoutNulls key "" text = valid s := by
  obtain ⟨hdefault, hread⟩ := optional_text_emptied habsent h
  rw [hread]
  split
  next hkey => rw [hdefault hkey]
  next => rfl

/-- Under two keys where nothing stood, the empty text takes the place of the default. -/
theorem optionalEither_text_emptied {default s : String}
    (habsent : key ∈ keys ∨ other ∈ keys → stored.get? key = none ∧ stored.get? other = none)
    (h : optionalEither stored.withoutNulls key other default text = valid s) :
    (key ∈ keys ∨ other ∈ keys → s = default) ∧
      optionalEither (emptied keys stored).withoutNulls key other default text =
        valid (if key ∈ keys ∨ other ∈ keys then "" else s) := by
  by_cases hany : key ∈ keys ∨ other ∈ keys
  · obtain ⟨hkey, hother⟩ := habsent hany
    have hunset := get?_withoutNulls_eq_none_iff.mpr (unset_of_get?_eq_none hkey)
    rw [optionalEither, hunset] at h
    have habsent : other ∈ keys → stored.get? other = none := fun _ => hother
    obtain ⟨hdefault, hread⟩ := optional_text_emptied habsent h
    rw [optionalEither, get?_withoutNulls_emptied, hunset, if_pos hany]
    -- the first key counts if it is among those set, else it is still absent
    by_cases hmem : key ∈ keys
    · rw [Checked.optional,
        get?_withoutNulls_eq_none_iff.mpr (unset_of_get?_eq_none hother)] at h
      rw [if_pos hmem]
      exact ⟨fun _ => (Checked.valid.inj h).symm, rfl⟩
    · have hmem' := hany.resolve_left hmem
      rw [if_pos hmem'] at hread
      rw [if_neg hmem]
      exact ⟨fun _ => hdefault hmem', hread⟩
  · obtain ⟨hkey, hother⟩ := not_or.mp hany
    rw [optionalEither_emptied_of_not_mem hkey hother, if_neg hany]
    exact ⟨fun hmem => absurd hmem hany, h⟩

end Members

/-! ## Nodes -/

/-- The text attributes of a kind that may be set to the empty text, each with the keys under which
it may stand. -/
def NodeKind.textAttributes : NodeKind → List (List String)
  | agent => [["name"], ["description"], ["system_message"]]
  | runner => [["input"]]
  | tool => [["name"], ["returnType", "return_type"], ["implementation"]]

/-- A key belongs to one attribute only. -/
theorem NodeKind.eq_of_mem_textAttributes {kind : NodeKind} : ∀ keys ∈ kind.textAttributes,
    ∀ others ∈ kind.textAttributes, ∀ key ∈ keys, key ∈ others → keys = others := by
  cases kind <;> decide

/-- A node lacks the text attribute of a key: nothing is stored under any key of the attribute. -/
def Node.Lacks (node : Node) (key : String) : Prop :=
  ∃ stored : Members, node.data = .obj stored ∧
    ∃ keys ∈ node.kind.textAttributes, key ∈ keys ∧ ∀ other ∈ keys, stored.get? other = none

/-- A node with the empty text stored under the given keys. -/
def Node.emptied (keys : List String) (node : Node) : Node :=
  match node.data with
  | .obj stored => { node with data := .obj (Members.emptied keys stored) }
  | _ => node

/-- What becomes of the attributes of a node when the empty text is stored under keys of attributes
that it lacks. -/
inductive Attributes.Emptied (keys : List String) : Attributes → Attributes → Prop where
  | agent (a : Agent) (hname : "name" ∈ keys → a.name = "New Agent") :
    Emptied keys (.agent a) (.agent { a with name := if "name" ∈ keys then "" else a.name })
  | runner (r : Runner) : Emptied keys (.runner r) (.runner r)
  | tool (t : Tool) (hname : "name" ∈ keys → t.name = "new_function")
    (htype : "returnType" ∈ keys ∨ "return_type" ∈ keys → t.returnType = "str") :
    Emptied keys (.tool t) (.tool { t with
      name := if "name" ∈ keys then "" else t.name
      returnType := if "returnType" ∈ keys ∨ "return_type" ∈ keys then "" else t.returnType })

namespace Node

variable {node : Node} {keys : List String} {stored : Members}

@[simp] theorem id_emptied : (node.emptied keys).id = node.id := by
  unfold emptied
  split <;> rfl

@[simp] theorem kind_emptied : (node.emptied keys).kind = node.kind := by
  unfold emptied
  split <;> rfl

theorem emptied_of_data (h : node.data = .obj stored) :
    node.emptied keys = { node with data := .obj (Members.emptied keys stored) } := by
  rw [emptied, h]

/-- Nothing is stored under any key of an attribute that a node lacks. -/
theorem Lacks.get?_eq_none {key other : String} (h : node.Lacks key)
    (hdata : node.data = .obj stored) {keys : List String}
    (hkeys : keys ∈ node.kind.textAttributes) (hkey : key ∈ keys) (hother : other ∈ keys) :
    stored.get? other = none := by
  obtain ⟨_, hdata', found, hfound, hmem, hnone⟩ := h
  cases hdata.symm.trans hdata'
  rw [NodeKind.eq_of_mem_textAttributes keys hkeys found hfound key hkey hmem] at hother
  exact hnone other hother

section

variable (hlacks : ∀ key ∈ keys, node.Lacks key) {kind : NodeKind} (hkind : node.kind = kind)
include hlacks hkind

/-- Only keys of text attributes are those of attributes that a node lacks. -/
theorem not_mem_of_lacks {key : String} (h : key ∉ kind.textAttributes.flatten) : key ∉ keys := by
  intro hkey
  obtain ⟨-, -, found, hfound, hmem, -⟩ := hlacks key hkey
  exact h (List.mem_flatten_of_mem (hkind ▸ hfound) hmem)

/-- Nothing is stored under the only key of an attribute. -/
theorem get?_eq_none_of_lacks (hdata : node.data = .obj stored) {key : String}
    (hkeys : [key] ∈ kind.textAttributes) (hkey : key ∈ keys) : stored.get? key = none :=
  (hlacks key hkey).get?_eq_none hdata (hkind ▸ hkeys) List.mem_cons_self List.mem_cons_self

end

section

variable (hlacks : ∀ key ∈ keys, node.Lacks key) (hdata : node.data = .obj stored)
include hlacks hdata

theorem agent_check_emptied (hkind : node.kind = .agent) {a : Agent}
    (h : Agent.check (.obj stored) = valid a) : ("name" ∈ keys → a.name = "New Agent") ∧
      Agent.check (.obj (Members.emptied keys stored)) =
        valid { a with name := if "name" ∈ keys then "" else a.name } := by
  obtain ⟨hname, hdescription, hmessage, hformat, hschema⟩ := Agent.check_obj_eq_valid_iff.mp h
  obtain ⟨hdefault, hname⟩ :=
    Members.optional_text_emptied (get?_eq_none_of_lacks hlacks hkind hdata (by decide)) hname
  refine ⟨hdefault, Agent.check_obj_eq_valid_iff.mpr ⟨hname, ?_, ?_, ?_, ?_⟩⟩
  · exact Members.optional_text_emptied_empty
      (get?_eq_none_of_lacks hlacks hkind hdata (by decide)) hdescription
  · exact Members.optional_text_emptied_empty
      (get?_eq_none_of_lacks hlacks hkind hdata (by decide)) hmessage
  -- the form of the answers and their schema are no text attributes
  · rwa [Members.optional_emptied_of_not_mem (not_mem_of_lacks hlacks hkind (by decide))]
  · rwa [Members.optionalEither_emptied_of_not_mem (not_mem_of_lacks hlacks hkind (by decide))
      (not_mem_of_lacks hlacks hkind (by decide))]

theorem runner_check_emptied (hkind : node.kind = .runner) {r : Runner}
    (h : Runner.check (.obj stored) = valid r) :
    Runner.check (.obj (Members.emptied keys stored)) = valid r := by
  obtain ⟨hname, hinput, hcontext, hmode⟩ := Runner.check_obj_eq_valid_iff.mp h
  refine Runner.check_obj_eq_valid_iff.mpr ⟨?_, ?_, ?_, ?_⟩
  · rwa [Members.optional_emptied_of_not_mem (not_mem_of_lacks hlacks hkind (by decide))]
  · exact Members.optional_text_emptied_empty
      (get?_eq_none_of_lacks hlacks hkind hdata (by decide)) hinput
  · rwa [Members.optional_emptied_of_not_mem (not_mem_of_lacks hlacks hkind (by decide))]
  · rwa [Members.optional_emptied_of_not_mem (not_mem_of_lacks hlacks hkind (by decide))]

theorem tool_check_emptied (hkind : node.kind = .tool) {t : Tool}
    (h : Tool.check (.obj stored) = valid t) : ("name" ∈ keys → t.name = "new_function") ∧
      ("returnType" ∈ keys ∨ "return_type" ∈ keys → t.returnType = "str") ∧
      Tool.check (.obj (Members.emptied keys stored)) = valid { t with
        name := if "name" ∈ keys then "" else t.name
        returnType :=
          if "returnType" ∈ keys ∨ "return_type" ∈ keys then "" else t.returnType } := by
  obtain ⟨hname, hparameters, htype, himplementation⟩ := Tool.check_obj_eq_valid_iff.mp h
  -- neither key of the type is there, whichever of them the empty text is stored under
  have hkeys : ["returnType", "return_type"] ∈ NodeKind.textAttributes .tool := by decide
  have hneither (hany : "returnType" ∈ keys ∨ "return_type" ∈ keys) :
      stored.get? "returnType" = none ∧ stored.get? "return_type" = none := by
    rcases hany with hkey | hkey <;>
      exact ⟨(hlacks _ hkey).get?_eq_none hdata (hkind ▸ hkeys) (by decide) (by decide),
        (hlacks _ hkey).get?_eq_none hdata (hkind ▸ hkeys) (by decide) (by decide)⟩
  obtain ⟨hnamed, hname⟩ :=
    Members.optional_text_emptied (get?_eq_none_of_lacks hlacks hkind hdata (by decide)) hname
  obtain ⟨htyped, htype⟩ := Members.optionalEither_text_emptied hneither htype
  refine ⟨hnamed, htyped, Tool.check_obj_eq_valid_iff.mpr ⟨hname, ?_, htype, ?_⟩⟩
  · rwa [Members.optional_emptied_of_not_mem (not_mem_of_lacks hlacks hkind (by decide))]
  · exact Members.optional_text_emptied_empty
      (get?_eq_none_of_lacks hlacks hkind hdata (by decide)) himplementation

/-- A node that can be read can still be read once it is emptied. -/
theorem exists_attributes_emptied {a : Attributes} (h : node.attributes = .ok a) :
    ∃ b, (node.emptied keys).attributes = .ok b ∧ a.Emptied keys b := by
  have hkind := kind_of_attributes h
  have hdata' : (node.emptied keys).data = .obj (Members.emptied keys stored) := by
    rw [emptied_of_data hdata]
  have hkind' : (node.emptied keys).kind = a.kind := kind_emptied.trans hkind
  cases a with
  | agent a =>
    rw [attributes_eq_agent_iff_check hkind hdata] at h
    obtain ⟨hname, hread⟩ := agent_check_emptied hlacks hdata hkind h
    exact ⟨_, (attributes_eq_agent_iff_check hkind' hdata').mpr hread, .agent a hname⟩
  | runner r =>
    rw [attributes_eq_runner_iff_check hkind hdata] at h
    have hread := runner_check_emptied hlacks hdata hkind h
    exact ⟨_, (attributes_eq_runner_iff_check hkind' hdata').mpr hread, .runner r⟩
  | tool t =>
    rw [attributes_eq_tool_iff_check hkind hdata] at h
    obtain ⟨hname, htype, hread⟩ := tool_check_emptied hlacks hdata hkind h
    exact ⟨_, (attributes_eq_tool_iff_check hkind' hdata').mpr hread, .tool t hname htype⟩

end

end Node

/-! ## Documents -/

/-- The document of a node with the empty text stored under the keys for its id. -/
def Node.emptyDocument (sets : String → List String) : Json → Json
  | .obj members =>
    match Entries.get? members "id", stored? members with
    | some (.str id), some stored =>
      if sets id = [] then .obj members
      else .obj (Entries.put "data" (.obj (Members.emptied (sets id) stored)) members)
    | _, _ => .obj members
  | document => document

namespace Workflow

/-- The document of a workflow with the empty text stored with each node under the keys for its
id. -/
def emptyDocument (sets : String → List String) : Json → Json
  | .obj members =>
    match Entries.get? members "nodes" with
    | some (.arr items) =>
      .obj (Entries.put "nodes" (.arr (items.map (Node.emptyDocument sets))) members)
    | _ => .obj members
  | document => document

/-- A workflow with the empty text stored with each node under the keys for its id. -/
def emptied (sets : String → List String) (w : Workflow) : Workflow :=
  { w with nodes := w.nodes.map fun node => node.emptied (sets node.id) }

end Workflow

variable {sets : String → List String}

/-- An emptied document holds the emptied node. -/
theorem Node.check_emptyDocument {document : Json} {node : Node}
    (h : Node.check document = valid node) (hlacks : ∀ key ∈ sets node.id, node.Lacks key) :
    Node.check (emptyDocument sets document) = valid (node.emptied (sets node.id)) := by
  obtain ⟨members, rfl, -⟩ := record_eq_valid_iff.mp h
  obtain ⟨hid, -, -, -, a, ha⟩ := check_obj_eq_valid_iff.mp h
  obtain ⟨stored, hstored, hdata⟩ := exists_stored? h
  obtain ⟨value, hid, hvalue⟩ := required_eq_valid_iff.mp hid
  rw [text_eq_valid_iff.mp hvalue] at hid
  obtain ⟨b, hb, -⟩ := exists_attributes_emptied hlacks hdata ha
  rw [emptied_of_data hdata] at hb ⊢
  simp only [emptyDocument, hid, hstored]
  split
  next hnone =>
    rw [h, hnone]
    exact congrArg valid (hdata ▸ rfl)
  next => exact check_put_data h ⟨b, hb⟩

namespace Workflow

theorem listed_emptyDocument (sets : String → List String) (members : Members) :
    ∃ others, emptyDocument sets (.obj members) = .obj others ∧
      listed others "nodes" = (listed members "nodes").map (Node.emptyDocument sets) ∧
      listed others "edges" = listed members "edges" := by
  rw [emptyDocument]
  split
  next items hitems =>
    have hlisted : listed members "nodes" = items := by rw [listed, hitems]; rfl
    refine ⟨_, rfl, ?_, ?_⟩
    · rw [listed_put, if_pos rfl, hlisted]
    · rw [listed_put, if_neg (by decide)]
  next hitems =>
    -- anything but a list has no items
    have hnone : listed members "nodes" = [] := by
      unfold listed
      split
      next value hvalue =>
        cases value with
        | arr items => exact absurd hvalue (hitems items)
        | _ => rfl
      next => rfl
    exact ⟨members, rfl, by rw [hnone]; rfl, rfl⟩

/-- An emptied document holds the emptied workflow. -/
theorem ofDocument_emptyDocument {document : Json} {draws : Draws} {w : Workflow}
    (h : ofDocument document draws = .ok w)
    (hlacks : ∀ node ∈ w.nodes, ∀ key ∈ sets node.id, node.Lacks key) :
    ofDocument (emptyDocument sets document) draws = .ok (w.emptied sets) := by
  obtain ⟨members, rfl, hnodes, hedges, hids⟩ := ofDocument_eq_ok_iff.mp h
  obtain ⟨others, hothers, hlistedNodes, hlistedEdges⟩ := listed_emptyDocument sets members
  refine ofDocument_eq_ok_iff.mpr ⟨others, hothers, ?_, ?_, ?_⟩
  · rw [hlistedNodes, emptied, List.forall₂_map_map_iff]
    have hboth := (List.forall₂_and_left _ _).mpr ⟨hlacks, hnodes.flip⟩
    exact hboth.flip.imp fun _ _ hnode => Node.check_emptyDocument hnode.2 hnode.1
  · rw [listedEdges, hlistedEdges]
    exact hedges
  · rw [DistinctIds] at hids
    rw [DistinctIds, emptied, List.map_map]
    simpa only [Function.comp_def, Node.id_emptied] using hids

/-- The attributes of a sound workflow become those of the emptied one, node by node. -/
theorem forall₂_emptied {w : Workflow} (hsound : w.Sound)
    (hlacks : ∀ node ∈ w.nodes, ∀ key ∈ sets node.id, node.Lacks key) :
    List.Forall₂ (fun node other => node.id = other.id ∧ node.kind = other.kind ∧
      ∃ x y, node.attributes = .ok x ∧ other.attributes = .ok y ∧ x.Emptied (sets node.id) y)
      w.nodes (w.emptied sets).nodes := by
  rw [emptied, List.forall₂_map_right_iff, List.forall₂_same]
  intro node hnode
  obtain ⟨⟨stored, hdata⟩, a, ha⟩ := hsound node hnode
  obtain ⟨b, hb, hemptied⟩ := Node.exists_attributes_emptied (hlacks node hnode) hdata ha
  exact ⟨Node.id_emptied.symm, Node.kind_emptied.symm, a, b, ha, hb, hemptied⟩

end Workflow

end AgentCanvas
