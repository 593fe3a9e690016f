import AgentCanvas.Proofs.Graph.Loss
import AgentCanvas.Proofs.Program.ReadsAs

/-!
# Saving and loading

A saved document holds the workflow it was made from, up to the numbers that JSON cannot express:
inside stored attributes they have become null. Such a workflow reads as the original one, so it
has the same program. It is refused only if two nodes share an id, which edits can bring about.

## Key definitions

- `Node.saved`, `Workflow.saved`: what is saved of nodes and workflows.

## Key results

- `Workflow.Sound.ofDocument_toDocument`: a saved document holds what was saved.
- `Workflow.Sound.saved_readsAs`: what was saved reads as the original.
- `Workflow.reload_session`: saving and loading after any session without replaced attributes.
-/

namespace AgentCanvas

open Checked

/-- What is saved of a node: its infinite numbers and NaN are null. -/
def Node.saved (node : Node) : Node :=
  { node with data := node.data.finiteOnly }

/-- What is saved of a workflow. -/
def Workflow.saved (w : Workflow) : Workflow :=
  { w with nodes := w.nodes.map Node.saved }

/-! ## Records -/

/-- The role that is saved with an edge is not read, and no id is drawn for it. -/
theorem Edge.check_edgeDocument (w : Workflow) (edge : Edge) (drawn : String) :
    Edge.check (w.edgeDocument edge) drawn = valid edge :=
  rfl

namespace Node

variable {node : Node}

/-- What is saved of a sound node reads as the node. -/
theorem Sound.saved_readsAs (h : node.Sound) : node.saved.ReadsAs node where
  id := rfl
  kind := rfl
  attributes := by
    obtain ⟨a, ha⟩ := readable_iff.mp h.readable
    rw [attributes, attributes, ha]
    exact congrArg (orReject node.kind.shape) (Attributes.check_finiteOnly ha)

/-- The document of a sound node holds what was saved of it. -/
theorem Sound.check_toDocument (h : node.Sound) :
    Node.check node.toDocument = valid node.saved := by
  obtain ⟨members, hmembers⟩ := h.isObject
  -- field by field: id, kind, position, stored attributes; then they are read once more
  refine check_obj_eq_valid_iff.mpr ⟨rfl, ?_, rfl, ?_, ?_⟩
  · exact under_eq_valid_iff.mpr (NodeKind.choice_name node.kind)
  · refine under_eq_valid_iff.mpr (object_eq_valid_iff.mpr ⟨Json.finiteMembers members, ?_, ?_⟩)
    · rw [hmembers, Json.finiteOnly]
    · rw [saved, hmembers, Json.finiteOnly]
  · obtain ⟨a, ha⟩ := h.readable
    exact ⟨a, h.saved_readsAs.attributes.trans ha⟩

theorem saved_eq_self_iff : node.saved = node ↔ node.data.Finite := by
  rw [← Json.finiteOnly_eq_self_iff]
  constructor
  · exact fun h => congrArg Node.data h
  · intro h
    rw [saved, h]

end Node

namespace Workflow

variable {w : Workflow}

theorem Sound.saved_readsAs (h : w.Sound) : w.saved.ReadsAs w where
  nodes := by
    rw [saved, List.forall₂_map_left_iff, List.forall₂_same]
    exact fun node hnode => (h node hnode).saved_readsAs
  edges := rfl

theorem distinctIds_saved_iff : w.saved.DistinctIds ↔ w.DistinctIds := by
  simp [DistinctIds, saved, Node.saved, Function.comp_def]

/-- Reading the document of a sound workflow leaves only the ids to compare. -/
theorem Sound.check_toDocument (h : w.Sound) {members : Members}
    (hmembers : w.toDocument = .obj members) (draws : Draws) :
    check members draws = checkDistinct w.saved := by
  cases hmembers
  apply check_eq_checkDistinct
  · change List.Forall₂ _ (w.nodes.map Node.toDocument) (w.nodes.map Node.saved)
    rw [List.forall₂_map_map_iff, List.forall₂_same]
    exact fun node hnode => (h node hnode).check_toDocument
  · apply List.Forall₂.mapIdx_left
    change List.Forall₂ _ (w.edges.map w.edgeDocument) w.edges
    rw [List.forall₂_map_left_iff, List.forall₂_same]
    exact fun edge _ place => Edge.check_edgeDocument w edge (draws place)

/-- Exactly the workflows without infinite numbers and NaN are saved as they are. -/
theorem saved_eq_self_iff : w.saved = w ↔ ∀ node ∈ w.nodes, node.data.Finite := by
  constructor
  · intro h node hnode
    have hnodes : w.nodes.map Node.saved = w.nodes.map id := by
      rw [List.map_id]
      exact congrArg Workflow.nodes h
    exact Node.saved_eq_self_iff.mp (List.map_inj_left.mp hnodes node hnode)
  · intro h
    have hnodes : w.nodes.map Node.saved = w.nodes :=
      (List.map_congr_left fun node hnode => Node.saved_eq_self_iff.mpr (h node hnode)).trans
        (List.map_id w.nodes)
    rw [saved, hnodes]

/-- What was saved has the same document. -/
theorem Sound.toDocument_saved (h : w.Sound) : w.saved.toDocument = w.toDocument := by
  have hnodes : w.saved.nodes.map Node.toDocument = w.nodes.map Node.toDocument := by
    simp only [saved, List.map_map]
    apply List.map_congr_left
    intro node _
    simp only [Function.comp_apply, Node.toDocument, Node.saved, Json.finiteOnly_finiteOnly]
  rw [toDocument, toDocument, hnodes, h.saved_readsAs.map_edgeDocument_eq]

/-- The document of a sound workflow with distinct ids holds what was saved. -/
theorem Sound.ofDocument_toDocument (h : w.Sound) (hids : w.DistinctIds) (draws : Draws) :
    ofDocument w.toDocument draws = .ok w.saved := by
  obtain ⟨members, hmembers⟩ : ∃ members, w.toDocument = .obj members := ⟨_, rfl⟩
  have hcheck : check members draws = valid w.saved := (h.check_toDocument hmembers draws).trans
    (checkDistinct_eq_valid_iff.mpr ⟨distinctIds_saved_iff.mpr hids, rfl⟩)
  rw [hmembers, ofDocument, hcheck]
  rfl

/-- The document of a sound workflow is refused for the first id that is repeated. -/
theorem Sound.ofDocument_toDocument_of_repeated (h : w.Sound) {id : String}
    (hid : firstRepeated? [] (w.nodes.map (·.id)) = some id) (draws : Draws) :
    ofDocument w.toDocument draws = .error (.invalid ⟨.workflow, [⟨[], .repeatedNode id⟩]⟩) := by
  obtain ⟨members, hmembers⟩ : ∃ members, w.toDocument = .obj members := ⟨_, rfl⟩
  have hids : w.saved.nodes.map (·.id) = w.nodes.map (·.id) := by
    simp [saved, Node.saved, Function.comp_def]
  have hcheck : check members draws = refuse (.repeatedNode id) := by
    rw [h.check_toDocument hmembers draws, checkDistinct, hids, hid]
  rw [hmembers, ofDocument, hcheck]
  rfl

/-- The documents of sound workflows can be read exactly if the ids are distinct. -/
theorem Sound.exists_ofDocument_toDocument_iff (h : w.Sound) (draws : Draws) :
    (∃ again, ofDocument w.toDocument draws = .ok again) ↔ w.DistinctIds := by
  constructor
  · rintro ⟨again, hagain⟩
    by_contra hids
    obtain ⟨_, _, _, -, -, -, hid⟩ := exists_firstRepeated_of_not_distinctIds hids
    rw [h.ofDocument_toDocument_of_repeated hid draws] at hagain
    cases hagain
  · exact fun hids => ⟨w.saved, h.ofDocument_toDocument hids draws⟩

end Workflow

/-! ## Sessions -/

/-- After any session that starts from a document and replaces no stored attributes, the document of
the workflow can be read exactly if no two nodes share an id, and else is refused for the first id
that is repeated. The workflow that is read has the same nodes, as far as ids, kinds, positions and
attributes go, the same edges, the same program and the same document; it is the same workflow
exactly if no infinite number and no NaN stands inside stored attributes. No id is drawn for an edge
of it. -/
theorem Workflow.reload_session {document : Json} {draws : Draws} {start : Workflow}
    (hload : ofDocument document draws = .ok start) {changes : List Edit}
    (hkeeps : ∀ change ∈ changes, change.keepsData) (others : Draws) :
    let w := start.session changes
    ((∃ again, ofDocument w.toDocument others = .ok again) ↔ w.DistinctIds) ∧
    (¬w.DistinctIds → ∃ before id after, w.nodes.map (·.id) = before ++ id :: after ∧
      before.Nodup ∧ id ∈ before ∧
        ofDocument w.toDocument others =
          .error (.invalid ⟨.workflow, [⟨[], .repeatedNode id⟩]⟩)) ∧
    (∀ again, ofDocument w.toDocument others = .ok again →
      List.Forall₂ (fun node old => node.id = old.id ∧ node.kind = old.kind ∧
        node.position = old.position ∧ ∃ a, node.attributes = .ok a ∧ old.attributes = .ok a)
          again.nodes w.nodes ∧
      again.edges = w.edges ∧
      (∀ d, ∃ g, again.generate d = .ok g ∧ w.generate d = .ok g) ∧
      again.toDocument = w.toDocument ∧
      (again = w ↔ ∀ node ∈ w.nodes, ∀ x, Json.Within (.float x) node.data → x.isFinite)) := by
  intro w
  -- all that is known of the session is that its nodes are sound
  have hsound : w.Sound := sound_session hload hkeeps
  refine ⟨hsound.exists_ofDocument_toDocument_iff others, ?_, ?_⟩
  · intro hids
    obtain ⟨before, id, after, heq, hbefore, hid, hfound⟩ :=
      exists_firstRepeated_of_not_distinctIds hids
    exact ⟨before, id, after, heq, hbefore, hid,
      hsound.ofDocument_toDocument_of_repeated hfound others⟩
  · intro again hagain
    have hids : w.DistinctIds :=
      (hsound.exists_ofDocument_toDocument_iff others).mp ⟨again, hagain⟩
    obtain rfl : w.saved = again :=
      Except.ok.inj ((hsound.ofDocument_toDocument hids others).symm.trans hagain)
    refine ⟨?_, rfl, fun d => ?_, hsound.toDocument_saved, saved_eq_self_iff⟩
    · rw [saved, List.forall₂_map_left_iff, List.forall₂_same]
      intro node hnode
      obtain ⟨a, ha⟩ := (hsound node hnode).readable
      exact ⟨rfl, rfl, rfl, a, (hsound node hnode).saved_readsAs.attributes.trans ha, ha⟩
    · obtain ⟨g, hg⟩ := exists_generate_eq_ok_iff.mpr hsound.readable
      exact ⟨g, (hsound.saved_readsAs.generate_eq d).trans hg, hg⟩

/-- The document of a runner with a note that is not read: a list that holds NaN. -/
def Node.notedDocument : Json :=
  .obj [("id", .str "r"), ("type", .str "runner"),
    ("data", .obj [("note", .arr [.float .nan])])]

/-- The canvas with the noted runner comes back as another one with the same program. With a second
copy of the runner it does not come back. -/
theorem Workflow.reload_session_notedDocument :
    ∃ start, ofDocument (.obj [("nodes", .arr [Node.notedDocument])]) = .ok start ∧
      (∃ again, ofDocument start.toDocument = .ok again ∧ again ≠ start ∧
        ∃ g, again.generate Defaults.builtIn = .ok g ∧ start.generate Defaults.builtIn = .ok g) ∧
      ofDocument (start.session [.appendNode Node.notedDocument]).toDocument =
        .error (.invalid ⟨.workflow, [⟨[], .repeatedNode "r"⟩]⟩) := by
  let start : Workflow :=
    ⟨[⟨"r", .runner, ⟨.zero, .zero⟩, .obj [("note", .arr [.float .nan])]⟩], []⟩
  have hload : ofDocument (.obj [("nodes", .arr [Node.notedDocument])]) = .ok start := rfl
  have hkept : ∀ change ∈ ([] : List Edit), change.keepsData := by simp
  have hadded : ∀ change ∈ [Edit.appendNode Node.notedDocument], change.keepsData := by
    simp [Edit.keepsData]
  refine ⟨start, hload, ?_, ?_⟩
  · obtain ⟨hreads, -, hagain⟩ := reload_session hload hkept .same
    obtain ⟨again, hok⟩ := hreads.mpr (by decide)
    obtain ⟨-, -, hprogram, -, hsame⟩ := hagain again hok
    refine ⟨again, hok, fun heq => ?_, hprogram _⟩
    have hfinite := hsame.mp heq _ (List.mem_singleton_self _) .nan
      (.member List.mem_cons_self (.item List.mem_cons_self .self))
    cases hfinite
  · obtain ⟨-, hrefused, -⟩ := reload_session hload hadded .same
    obtain ⟨before, id, after, heq, -, hid, hrefused⟩ := hrefused (by decide)
    have hid : id ∈ ["r", "r"] := by
      change ["r", "r"] = before ++ id :: after at heq
      rw [heq]
      exact List.mem_append_left _ hid
    rw [hrefused, show id = "r" by simpa using hid]

end AgentCanvas
