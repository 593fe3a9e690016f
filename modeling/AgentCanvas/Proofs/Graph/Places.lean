import AgentCanvas.Proofs.Graph.Roles

/-!
# Places of tools

A program names the tools of an agent, but no ids. What it needs to know of the edges is at which
places among the tools the sources of an agent stand, each place once. Of all edges only those that
play the role of a tool matter for that, and renaming the nodes moves no place.

## Key definitions

- `Workflow.toolPlaces`: the places of the tools that feed a node.
- `Workflow.toolLinks`: the ends of the edges that hand a tool to an agent.
- `Workflow.rename`: a workflow with other ids.

## Key results

- `Workflow.toolPlaces_eq_of_links`: the places follow from the links, up to renaming.
- `Workflow.toolLinks_rename`: renaming a workflow renames its links.
-/

namespace AgentCanvas

/-- A node under another id. -/
def Node.rename (f : String → String) (node : Node) : Node :=
  { node with id := f node.id }

/-- An edge between the renamed nodes. -/
def Edge.rename (f : String → String) (edge : Edge) : Edge :=
  { edge with source := f edge.source, target := f edge.target }

namespace Workflow

/-- A workflow whose nodes have other ids. -/
def rename (f : String → String) (w : Workflow) : Workflow :=
  ⟨w.nodes.map (Node.rename f), w.edges.map (Edge.rename f)⟩

/-- The ids of the tools, in order. -/
def toolIds (w : Workflow) : List String :=
  (w.nodesOfKind .tool).map (·.id)

/-- The places among the tools at which the sources of a node stand, each once, in the order of the
edges. Sources that are no tools are left out. -/
def toolPlaces (w : Workflow) (id : String) : List Nat :=
  ((w.incoming id).filterMap fun edge => w.toolIds.idxOf? edge.source).eraseDups

/-- The ends of the edges that play the role of a tool, in order. -/
def toolLinks (w : Workflow) : List (String × String) :=
  (w.edges.filter fun edge => w.role? edge = some .tool).map fun edge => (edge.source, edge.target)

/-- The place of the tool that a link hands to the node with an id; none if it leads elsewhere. -/
def linkPlace? (w : Workflow) (id : String) (link : String × String) : Option Nat :=
  if link.2 = id then w.toolIds.idxOf? link.1 else none

variable {w v : Workflow}

/-! ## Links -/

/-- An edge to an agent plays the role of a tool exactly if its source is a tool. -/
theorem DistinctIds.role?_eq_tool_iff (h : w.DistinctIds) {agent : Node}
    (hagent : agent ∈ w.nodesOfKind .agent) {edge : Edge} (htarget : edge.target = agent.id) :
    w.role? edge = some .tool ↔ edge.source ∈ w.toolIds := by
  obtain ⟨hmem, hkind⟩ := mem_nodesOfKind.mp hagent
  simp only [Workflow.role?_eq_tool_iff, toolIds, List.mem_map, mem_nodesOfKind]
  constructor
  · rintro ⟨source, -, hsource, -, htool, -⟩
    obtain ⟨hmem, hid⟩ := mem_and_id_of_node? hsource
    exact ⟨source, ⟨hmem, htool⟩, hid⟩
  · rintro ⟨tool, ⟨htool, hkind'⟩, hid⟩
    exact ⟨tool, agent, h.node?_eq_some_iff.mpr ⟨htool, hid⟩, h.node?_target hmem htarget, hkind',
      hkind⟩

/-- The places of an agent's tools follow from the links. -/
theorem DistinctIds.toolPlaces_eq (h : w.DistinctIds) {agent : Node}
    (hagent : agent ∈ w.nodesOfKind .agent) :
    w.toolPlaces agent.id = (w.toolLinks.filterMap (w.linkPlace? agent.id)).eraseDups := by
  unfold toolPlaces toolLinks incoming
  rw [List.filterMap_map, List.filterMap_filter, List.filterMap_filter]
  congr 1
  apply List.filterMap_congr
  intro edge _
  -- only an edge to the agent has a place, and only if its source is a tool
  by_cases htarget : edge.target = agent.id
  · have hrole := h.role?_eq_tool_iff hagent htarget
    by_cases hsource : edge.source ∈ w.toolIds
    · simp [linkPlace?, htarget, hrole.mpr hsource]
    · have hplace : w.toolIds.idxOf? edge.source = none := List.idxOf?_eq_none_iff.mpr hsource
      simp [htarget, hplace, hrole, hsource]
  · simp [linkPlace?, htarget]

/-- The places of an agent's tools are those of the agent of another name, if the tools and the
links are renamed alike. Repeated links do not count. -/
theorem toolPlaces_eq_of_links (hw : w.DistinctIds) (hv : v.DistinctIds) {f : String → String}
    (hf : Function.Injective f) (htools : v.toolIds = w.toolIds.map f)
    (hlinks : v.toolLinks.eraseDups = (w.toolLinks.map (Prod.map f f)).eraseDups)
    {agent other : Node} (hagent : agent ∈ w.nodesOfKind .agent)
    (hother : other ∈ v.nodesOfKind .agent) (hid : other.id = f agent.id) :
    v.toolPlaces other.id = w.toolPlaces agent.id := by
  have hplace : v.linkPlace? other.id ∘ Prod.map f f = w.linkPlace? agent.id := by
    funext link
    simp [linkPlace?, hid, htools, hf.eq_iff, List.idxOf?_map_of_injective hf]
  -- repetitions may be left out of the links of either workflow
  rw [hv.toolPlaces_eq hother, hw.toolPlaces_eq hagent, ← List.eraseDups_filterMap_eraseDups,
    hlinks, List.eraseDups_filterMap_eraseDups, List.filterMap_map, hplace]

/-! ## Renaming -/

section Rename

variable {f : String → String}

theorem nodesOfKind_rename (kind : NodeKind) :
    (w.rename f).nodesOfKind kind = (w.nodesOfKind kind).map (Node.rename f) := by
  simp only [nodesOfKind, rename, List.filter_map]
  rfl

theorem DistinctIds.rename (h : w.DistinctIds) (hf : Function.Injective f) :
    (w.rename f).DistinctIds := by
  have hids : (w.rename f).nodes.map (·.id) = (w.nodes.map (·.id)).map f := by
    simp [Workflow.rename, Node.rename, Function.comp_def]
  rw [DistinctIds, hids]
  exact List.Nodup.map hf h

theorem node?_rename (hf : Function.Injective f) (id : String) :
    (w.rename f).node? (f id) = (w.node? id).map (Node.rename f) := by
  simp only [node?, rename, List.find?_map]
  congr 2
  funext node
  simp [Node.rename, hf.eq_iff]

theorem role?_rename (hf : Function.Injective f) (edge : Edge) :
    (w.rename f).role? (edge.rename f) = w.role? edge := by
  simp only [role?, roleBetween, Edge.rename, node?_rename hf]
  cases w.node? edge.source with
  | none => rfl
  | some s =>
    cases w.node? edge.target with
    | none => rfl
    | some t => simp [Node.rename, hf.eq_iff]

/-- Renaming a workflow renames its links. -/
theorem toolLinks_rename (hf : Function.Injective f) :
    (w.rename f).toolLinks = w.toolLinks.map (Prod.map f f) := by
  have hroles : (fun edge => decide ((w.rename f).role? edge = some .tool)) ∘ Edge.rename f =
      fun edge => decide (w.role? edge = some .tool) := by
    funext edge
    simp [role?_rename hf]
  simp only [toolLinks]
  rw [show (w.rename f).edges = w.edges.map (Edge.rename f) from rfl, List.filter_map, hroles,
    List.map_map, List.map_map]
  rfl

end Rename

end Workflow

end AgentCanvas
