import AgentCanvas.Graph.Edit
import AgentCanvas.Proofs.Graph.Document

/-!
# Editing sessions

A session loads a document and tries one change after another; a change that cannot be made leaves
the workflow as it is. Unless stored attributes are replaced, every node of a session is one that
was checked when it came in, so its attributes can be read.

## Key definitions

- `Workflow.attempt`, `Workflow.session`: one change that is tried, and several.
- `Edit.keepsData`: changes that replace no stored attributes.

## Key results

- `Workflow.edit_cases`: everything that a change can do.
- `Workflow.sound_session`: sessions from a document that replace no stored attributes have sound
  nodes only.
-/

namespace AgentCanvas

/-- Whether a change leaves the stored attributes of all nodes as they are. -/
def Edit.keepsData : Edit → Bool
  | .setData _ _ => false
  | _ => true

namespace Workflow

/-- A workflow after a change that is tried. -/
def attempt (w : Workflow) (change : Edit) : Workflow :=
  match w.edit change with
  | .ok changed => changed
  | .error _ => w

/-- A workflow after several changes that are tried. -/
def session (w : Workflow) (changes : List Edit) : Workflow :=
  changes.foldl attempt w

/-- Everything that a change can do: it adds what it checked, removes what stands at a place, or
replaces the stored attributes of the node at a place. -/
theorem edit_cases {w changed : Workflow} {change : Edit} (h : w.edit change = .ok changed) :
    (∃ document node, change = .appendNode document ∧ Node.check document = .valid node ∧
      changed = w.appendNode node) ∨
    (∃ document drawn edge, change = .appendEdge document drawn ∧
      Edge.check document drawn = .valid edge ∧ changed = w.appendEdge edge) ∨
    (∃ index place, change = .removeNode index ∧ position? w.nodes.length index = some place ∧
      changed = { w with nodes := w.nodes.eraseIdx place }) ∨
    (∃ index place, change = .removeEdge index ∧ position? w.edges.length index = some place ∧
      changed = { w with edges := w.edges.eraseIdx place }) ∨
    (∃ index data place, change = .setData index data ∧
      position? w.nodes.length index = some place ∧ changed = w.setData place data) := by
  cases change with
  | appendNode document =>
    simp only [edit] at h
    split at h
    next node hnode =>
      cases h
      exact .inl ⟨document, node, rfl, Checked.orReject_eq_ok_iff.mp hnode, rfl⟩
    next => cases h
  | appendEdge document drawn =>
    simp only [edit] at h
    split at h
    next edge hedge =>
      cases h
      exact .inr (.inl ⟨document, drawn, edge, rfl, Checked.orReject_eq_ok_iff.mp hedge, rfl⟩)
    next => cases h
  | removeNode index =>
    simp only [edit] at h
    split at h
    next place hplace =>
      cases h
      exact .inr (.inr (.inl ⟨index, place, rfl, hplace, rfl⟩))
    next => cases h
  | removeEdge index =>
    simp only [edit] at h
    split at h
    next place hplace =>
      cases h
      exact .inr (.inr (.inr (.inl ⟨index, place, rfl, hplace, rfl⟩)))
    next => cases h
  | setData index data =>
    simp only [edit] at h
    split at h
    next place hplace =>
      cases h
      exact .inr (.inr (.inr (.inr ⟨index, data, place, rfl, hplace, rfl⟩)))
    next => cases h

/-- Unless stored attributes are replaced, a change brings in checked nodes only. -/
theorem mem_nodes_of_edit {w changed : Workflow} {change : Edit}
    (h : w.edit change = .ok changed) (hkeeps : change.keepsData) {node : Node}
    (hnode : node ∈ changed.nodes) :
    node ∈ w.nodes ∨ ∃ document, Node.check document = .valid node := by
  obtain ⟨document, added, -, hadded, rfl⟩ | ⟨_, _, edge, -, -, rfl⟩ | ⟨_, place, -, -, rfl⟩ |
    ⟨_, place, -, -, rfl⟩ | ⟨_, _, _, rfl, -, -⟩ := edit_cases h
  · rcases List.mem_append.mp hnode with hnode | hnode
    · exact .inl hnode
    · rw [List.mem_singleton.mp hnode]
      exact .inr ⟨document, hadded⟩
  · exact .inl hnode
  · exact .inl (List.mem_of_mem_eraseIdx hnode)
  · exact .inl hnode
  · cases hkeeps

/-- A change that is tried leaves sound nodes sound, unless it replaces stored attributes. -/
theorem Sound.attempt {w : Workflow} (h : w.Sound) {change : Edit} (hkeeps : change.keepsData) :
    (w.attempt change).Sound := by
  unfold Workflow.attempt
  split
  next changed hchanged =>
    intro node hnode
    rcases mem_nodes_of_edit hchanged hkeeps hnode with hold | ⟨document, hdocument⟩
    · exact h node hold
    · exact Node.sound_of_check hdocument
  -- a change that cannot be made leaves everything as it is
  next => exact h

/-- A session leaves sound nodes sound, unless it replaces stored attributes. -/
theorem Sound.session {w : Workflow} (h : w.Sound) {changes : List Edit}
    (hkeeps : ∀ change ∈ changes, change.keepsData) : (w.session changes).Sound := by
  induction changes generalizing w with
  | nil => exact h
  | cons change rest ih =>
    -- the rest of the session starts from the workflow after the first change
    exact ih (h.attempt (hkeeps change List.mem_cons_self)) fun later hlater =>
      hkeeps later (List.mem_cons_of_mem change hlater)

/-- Sessions from a document have sound nodes only, unless they replace stored attributes. -/
theorem sound_session {document : Json} {draws : Draws} {w : Workflow}
    (h : ofDocument document draws = .ok w) {changes : List Edit}
    (hkeeps : ∀ change ∈ changes, change.keepsData) : (w.session changes).Sound :=
  (sound_of_ofDocument h).session hkeeps

end Workflow

end AgentCanvas
