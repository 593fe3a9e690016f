import AgentCanvas.Graph.Document
import AgentCanvas.Proofs.Graph.Reading
import Mathlib.Data.List.Nodup
import Mathlib.Order.Bounds.Defs

/-!
# Documents that hold workflows

Which documents hold a node and which hold a workflow, and what the workflow then is. The ids of
the nodes are compared last, once every node and every edge is accepted.

## Key definitions

- `Workflow.DistinctIds`: no two nodes share an id.
- `Node.Sound`, `Workflow.Sound`: what accepted nodes guarantee.
- `repeatedPlaces`: where a list repeats itself.

## Key results

- `Node.check_obj_eq_valid_iff`: a node is accepted field by field.
- `firstRepeated?_eq_none_iff`, `firstRepeated?_eq_some_iff`, `isLeast_of_firstRepeated?`: the
  search for a repeated id.
- `Workflow.check_eq_checkDistinct`: accepted nodes and edges leave only the ids to compare.
-/

namespace AgentCanvas

open Checked

/-! ## Nodes -/

/-- A kind is chosen by its name. -/
theorem NodeKind.choice_name (kind : NodeKind) :
    choice .unknownKind NodeKind.byName (.str kind.name) = valid kind := by
  cases kind <;> rfl

/-- A node with an object of attributes that can be read. -/
structure Node.Sound (node : Node) : Prop where
  isObject : ∃ members, node.data = .obj members
  readable : node.Readable

/-- All nodes of a workflow are sound. -/
def Workflow.Sound (w : Workflow) : Prop :=
  ∀ node ∈ w.nodes, node.Sound

theorem Workflow.Sound.readable {w : Workflow} (h : w.Sound) : w.Readable :=
  fun node hnode => (h node hnode).readable

/-- An object holds a node if each of its fields does and the attributes can be read. -/
theorem Node.check_obj_eq_valid_iff {members : Members} {node : Node} :
    Node.check (.obj members) = valid node ↔
      required members "id" text = valid node.id ∧
      required members "type" (choice .unknownKind NodeKind.byName) = valid node.kind ∧
      optional members "position" ⟨.zero, .zero⟩ Position.check = valid node.position ∧
      optional members "data" (.obj []) object = valid node.data ∧ node.Readable := by
  simp only [Node.check, record, andThen_eq_valid_iff, also_eq_valid_iff, Node.checkAttributes,
    map_eq_valid_iff, Node.readable_iff]
  constructor
  · rintro ⟨_, ⟨_, data, ⟨_, position, ⟨_, kind, ⟨_, id, h, hid, rfl⟩, hkind, rfl⟩, hposition,
      rfl⟩, hdata, rfl⟩, a, ha, rfl⟩
    cases h
    exact ⟨hid, hkind, hposition, hdata, a, ha⟩
  · rintro ⟨hid, hkind, hposition, hdata, a, ha⟩
    exact ⟨_, ⟨_, _, ⟨_, _, ⟨_, _, ⟨_, _, rfl, hid, rfl⟩, hkind, rfl⟩, hposition, rfl⟩, hdata, rfl⟩,
      a, ha, rfl⟩

/-- A node that was checked is sound. -/
theorem Node.sound_of_check {document : Json} {node : Node} (h : Node.check document = valid node) :
    node.Sound := by
  obtain ⟨members, rfl, -⟩ := record_eq_valid_iff.mp h
  obtain ⟨-, -, -, hdata, hreadable⟩ := Node.check_obj_eq_valid_iff.mp h
  refine ⟨?_, hreadable⟩
  rcases optional_eq_valid_iff.mp hdata with ⟨-, hdefault⟩ | ⟨value, -, hvalue⟩
  · exact ⟨[], hdefault.symm⟩
  · obtain ⟨stored, -, hstored⟩ := object_eq_valid_iff.mp hvalue
    exact ⟨stored, hstored⟩

/-! ## Repeated ids -/

/-- An id that is not in `seen` is looked for behind its first occurrence. -/
private theorem firstRepeated?_cons_of_not_mem {seen : List String} {id : String}
    (h : id ∉ seen) (rest : List String) :
    firstRepeated? seen (id :: rest) = firstRepeated? (id :: seen) rest := by
  simp [firstRepeated?, h]

private theorem firstRepeated?_cons_of_mem {seen : List String} {id : String}
    (h : id ∈ seen) (rest : List String) : firstRepeated? seen (id :: rest) = some id := by
  simp [firstRepeated?, h]

/-- No id is found exactly if none stands in the list twice and none is in `seen`. -/
theorem firstRepeated?_eq_none_iff {seen ids : List String} :
    firstRepeated? seen ids = none ↔ ids.Nodup ∧ ∀ id ∈ ids, id ∉ seen := by
  induction ids generalizing seen with
  | nil => simp [firstRepeated?]
  | cons id rest ih =>
    by_cases hseen : id ∈ seen
    · simp [firstRepeated?_cons_of_mem hseen, hseen]
    · rw [firstRepeated?_cons_of_not_mem hseen, ih, List.nodup_cons]
      simp only [List.mem_cons, forall_eq_or_imp, not_or]
      constructor
      · rintro ⟨hnodup, hrest⟩
        exact ⟨⟨fun hid => (hrest id hid).1 rfl, hnodup⟩, hseen, fun i hi => (hrest i hi).2⟩
      · rintro ⟨⟨hid, hnodup⟩, -, hrest⟩
        exact ⟨hnodup, fun i hi => ⟨fun heq => hid (heq ▸ hi), hrest i hi⟩⟩

/-- The id found is the first one that stands in the list a second time or is in `seen`: nothing
is found before it. -/
theorem firstRepeated?_eq_some_iff {seen ids : List String} {id : String} :
    firstRepeated? seen ids = some id ↔ ∃ before after, ids = before ++ id :: after ∧
      (id ∈ before ∨ id ∈ seen) ∧ firstRepeated? seen before = none := by
  induction ids generalizing seen with
  | nil => simp [firstRepeated?]
  | cons first rest ih =>
    by_cases hseen : first ∈ seen
    -- the search stops at the first id, so nothing may stand before it
    · rw [firstRepeated?_cons_of_mem hseen]
      constructor
      · intro hfirst
        cases hfirst
        exact ⟨[], rest, rfl, .inr hseen, rfl⟩
      · rintro ⟨_ | ⟨b, before⟩, after, heq, -, hbefore⟩
        · rw [(List.cons.inj heq).1]
        · rw [← (List.cons.inj heq).1, firstRepeated?_cons_of_mem hseen] at hbefore
          cases hbefore
    -- the search goes on with one more id to compare with
    · rw [firstRepeated?_cons_of_not_mem hseen, ih]
      constructor
      · rintro ⟨before, after, rfl, hid, hbefore⟩
        refine ⟨first :: before, after, rfl, ?_, ?_⟩
        · simp only [List.mem_cons] at hid ⊢
          tauto
        · rwa [firstRepeated?_cons_of_not_mem hseen]
      · rintro ⟨_ | ⟨b, before⟩, after, heq, hid, hbefore⟩
        · rw [(List.cons.inj heq).1] at hseen
          simp [hseen] at hid
        · obtain ⟨rfl, rfl⟩ := List.cons.inj heq
          rw [firstRepeated?_cons_of_not_mem hseen] at hbefore
          refine ⟨before, after, rfl, ?_, hbefore⟩
          simp only [List.mem_cons] at hid ⊢
          tauto

/-- The places of a list at which an item stands that stood at an earlier place already. -/
def repeatedPlaces (ids : List String) : Set Nat :=
  {place | ∃ id, ids[place]? = some id ∧ id ∈ ids.take place}

/-- The id found is the one at the least place of a repetition. -/
theorem isLeast_of_firstRepeated? {ids : List String} {id : String}
    (h : firstRepeated? [] ids = some id) :
    ∃ place, IsLeast (repeatedPlaces ids) place ∧ ids[place]? = some id := by
  obtain ⟨before, after, rfl, hid, hbefore⟩ := firstRepeated?_eq_some_iff.mp h
  have hid : id ∈ before := by simpa using hid
  have hnodup : before.Nodup := (firstRepeated?_eq_none_iff.mp hbefore).1
  refine ⟨before.length, ⟨⟨id, by simp, by simpa using hid⟩, ?_⟩, by simp⟩
  rintro place ⟨other, hother, hmem⟩
  -- a repetition at an earlier place would be one among the ids before
  by_contra hle
  have hlt : place < before.length := by omega
  rw [List.getElem?_append_left hlt] at hother
  rw [List.take_append_of_le_length (Nat.le_of_lt hlt)] at hmem
  have hdrop : other ∈ before.drop place := by
    rw [List.mem_iff_getElem?]
    exact ⟨0, by simpa using hother⟩
  exact List.disjoint_take_drop hnodup (Nat.le_refl _) hmem hdrop

namespace Workflow

/-- No two nodes of a workflow share an id. -/
def DistinctIds (w : Workflow) : Prop :=
  (w.nodes.map (·.id)).Nodup

instance (w : Workflow) : Decidable w.DistinctIds :=
  inferInstanceAs (Decidable (w.nodes.map (·.id)).Nodup)

/-- The comparison of ids accepts exactly the workflows with distinct ones. -/
theorem checkDistinct_eq_valid_iff {w w' : Workflow} :
    w.checkDistinct = valid w' ↔ w.DistinctIds ∧ w = w' := by
  have hnone : firstRepeated? [] (w.nodes.map (·.id)) = none ↔ w.DistinctIds := by
    simp [firstRepeated?_eq_none_iff, DistinctIds]
  unfold checkDistinct
  cases hfound : firstRepeated? [] (w.nodes.map (·.id)) with
  | none => simp [hnone.mp hfound]
  | some id => simp [← hnone, hfound, refuse]

/-- A repeated id has a first repetition, and no two nodes before it share an id. -/
theorem exists_firstRepeated_of_not_distinctIds {w : Workflow} (h : ¬w.DistinctIds) :
    ∃ before id after, w.nodes.map (·.id) = before ++ id :: after ∧ before.Nodup ∧ id ∈ before ∧
      firstRepeated? [] (w.nodes.map (·.id)) = some id := by
  cases hfound : firstRepeated? [] (w.nodes.map (·.id)) with
  | none => exact absurd (firstRepeated?_eq_none_iff.mp hfound).1 h
  | some id =>
    obtain ⟨before, after, heq, hid, hbefore⟩ := firstRepeated?_eq_some_iff.mp hfound
    have hid : id ∈ before := by simpa using hid
    exact ⟨before, id, after, heq, (firstRepeated?_eq_none_iff.mp hbefore).1, hid, rfl⟩

/-- Accepted nodes and edges leave only the ids to compare. -/
theorem check_eq_checkDistinct {members : Members} {draws : Draws} {nodes : List Node}
    {edges : List Edge}
    (hnodes : List.Forall₂ (fun a b => Node.check a = valid b) (listed members "nodes") nodes)
    (hedges : List.Forall₂ (fun a b => Edge.check a.1 a.2 = valid b) (listedEdges members draws)
      edges) :
    check members draws = checkDistinct ⟨nodes, edges⟩ := by
  rw [check, each_eq_valid_iff.mpr hnodes, each_eq_valid_iff.mpr hedges]
  rfl

/-- A document holds a workflow if it is an object, its nodes and edges are those of the workflow
and the ids of the nodes are distinct. -/
theorem ofDocument_eq_ok_iff {document : Json} {draws : Draws} {w : Workflow} :
    ofDocument document draws = .ok w ↔ ∃ members, document = .obj members ∧
      List.Forall₂ (fun a b => Node.check a = valid b) (listed members "nodes") w.nodes ∧
      List.Forall₂ (fun a b => Edge.check a.1 a.2 = valid b) (listedEdges members draws) w.edges ∧
      w.DistinctIds := by
  constructor
  · intro h
    cases document with
    | obj members =>
      refine ⟨members, rfl, ?_⟩
      simp only [ofDocument] at h
      split at h
      next loaded hloaded =>
        cases h
        -- the nodes, then the edges, and the ids last
        obtain ⟨found, hfound, hdistinct⟩ := andThen_eq_valid_iff.mp
          (orReject_eq_ok_iff.mp hloaded)
        obtain ⟨build, edges, hbuild, hedges, rfl⟩ := also_eq_valid_iff.mp hfound
        obtain ⟨_, nodes, hmk, hnodes, rfl⟩ := also_eq_valid_iff.mp hbuild
        cases hmk
        obtain ⟨hids, rfl⟩ := checkDistinct_eq_valid_iff.mp hdistinct
        exact ⟨each_eq_valid_iff.mp (under_eq_valid_iff.mp hnodes),
          each_eq_valid_iff.mp (under_eq_valid_iff.mp hedges), hids⟩
      next => cases h
    | _ => cases h
  · rintro ⟨members, rfl, hnodes, hedges, hids⟩
    rw [ofDocument, check_eq_checkDistinct hnodes hedges,
      checkDistinct_eq_valid_iff.mpr ⟨hids, rfl⟩]
    rfl

/-- The nodes of a workflow that was loaded are sound. -/
theorem sound_of_ofDocument {document : Json} {draws : Draws} {w : Workflow}
    (h : ofDocument document draws = .ok w) : w.Sound := by
  obtain ⟨members, -, hnodes, -, -⟩ := ofDocument_eq_ok_iff.mp h
  intro node hnode
  obtain ⟨item, -, hitem⟩ := hnodes.exists_of_mem_right hnode
  exact Node.sound_of_check hitem

end Workflow

end AgentCanvas
