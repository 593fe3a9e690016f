import AgentCanvas.Graph.Connections
import AgentCanvas.Proofs.ForStd.List
import Mathlib.Algebra.GroupWithZero.Nat
import Mathlib.Data.List.Induction

/-!
# What connections keep of edges

Connections are edges sorted by where they lead. On the way no edge is lost, added or put in another
place: edges determine the targets and their order, the sources of each target and theirs, and the
connections of two lists of edges can be put together into those of both.

## Key definitions

- `Connections.targets`, `Connections.size`: the targets and the number of sources.
- `Connections.merge`: connections put together.

## Key results

- `Connections.targets_add`, `Connections.size_add`: what adding one edge does.
- `Connections.ofEdges_eq`: connections written out target by target.
- `Connections.ofEdges_append`: the connections of two lists of edges.
- `Connections.ofEdges_faithful`: connections hold exactly what edges say.
-/

namespace AgentCanvas

namespace Entries

variable {α : Type} {entries : Entries α} {key : String}

/-- A key that is set stays in its place, or comes last if it is new. -/
theorem keys_put (key : String) (value : α) (entries : Entries α) :
    (put key value entries).map (·.1) =
      if key ∈ entries.map (·.1) then entries.map (·.1) else entries.map (·.1) ++ [key] := by
  induction entries with
  | nil => rfl
  | cons entry rest ih =>
    by_cases hentry : entry.1 = key
    · simp [put, hentry]
    · have hkey : key ≠ entry.1 := Ne.symm hentry
      simp only [put, if_neg hentry, List.map_cons, ih, List.mem_cons, hkey, false_or]
      split <;> rfl

/-- Where no key repeats, every entry is found under its key. -/
theorem get?_of_mem (hkeys : (entries.map (·.1)).Nodup) {entry : String × α} (h : entry ∈ entries) :
    entries.get? entry.1 = some entry.2 := by
  induction entries with
  | nil => cases h
  | cons first rest ih =>
    obtain ⟨hfirst, hrest⟩ := List.nodup_cons.mp hkeys
    rw [get?_cons]
    rcases List.mem_cons.mp h with rfl | hmem
    · exact if_pos rfl
    · have hne : first.1 ≠ entry.1 := fun heq =>
        hfirst (List.mem_map.mpr ⟨entry, hmem, heq.symm⟩)
      rw [if_neg hne, ih hrest hmem]

end Entries

namespace Connections

/-- The targets in their order. -/
def targets (connections : Connections) : List String :=
  connections.map (·.1)

/-- The number of sources of all targets together. -/
def size (connections : Connections) : Nat :=
  (connections.map (·.2.length)).sum

/-- The sources of others behind those that a target has, and their further targets at the end. -/
def merge (connections others : Connections) : Connections :=
  connections.map (fun entry => (entry.1, entry.2 ++ others.sources entry.1)) ++
    others.filter fun entry => !connections.targets.contains entry.1

variable {connections : Connections} {edges others : List Edge}

/-! ## Adding an edge -/

/-- The target of an edge comes last if nothing led to it before. -/
theorem targets_add (connections : Connections) (edge : Edge) :
    (connections.add edge).targets = if edge.target ∈ connections.targets then connections.targets
      else connections.targets ++ [edge.target] :=
  Entries.keys_put _ _ _

theorem size_cons (entry : String × List String) (rest : Connections) :
    size (entry :: rest) = entry.2.length + size rest := by
  simp [size]

/-- Setting the sources of a target exchanges them for those that it had. -/
theorem size_put (target : String) (found : List String) (connections : Connections) :
    size (Entries.put target found connections) + (connections.sources target).length =
      connections.size + found.length := by
  induction connections with
  | nil => simp [Entries.put, size, sources, Entries.get?]
  | cons entry rest ih =>
    by_cases h : entry.1 = target
    · have hsources : sources (entry :: rest) target = entry.2 := by
        rw [sources, Entries.get?_cons, if_pos h, Option.getD_some]
      rw [hsources, Entries.put, if_pos h, size_cons, size_cons]
      change found.length + size rest + entry.2.length = entry.2.length + size rest + found.length
      omega
    · have hsources : sources (entry :: rest) target = sources rest target := by
        rw [sources, sources, Entries.get?_cons, if_neg h]
      rw [hsources, Entries.put, if_neg h, size_cons, size_cons]
      omega

/-- An edge counts once, wherever it leads. -/
theorem size_add (connections : Connections) (edge : Edge) :
    (connections.add edge).size = connections.size + 1 := by
  have h := size_put edge.target (connections.sources edge.target ++ [edge.source]) connections
  rw [List.length_append, List.length_singleton] at h
  rw [add]
  omega

/-! ## Adding all edges -/

theorem ofEdges_concat (edges : List Edge) (edge : Edge) :
    ofEdges (edges ++ [edge]) = (ofEdges edges).add edge := by
  rw [ofEdges, List.foldl_append]
  rfl

/-- Targets stand in the order in which edges first lead to them. -/
theorem targets_ofEdges (edges : List Edge) :
    (ofEdges edges).targets = (edges.map (·.target)).eraseDups := by
  induction edges using List.reverseRecOn with
  | nil => rfl
  | append_singleton front edge ih =>
    rw [ofEdges_concat, targets_add, ih, List.map_append, List.eraseDups_append, List.map_singleton]
    -- the last edge has a target of its own exactly if no edge in front leads there
    by_cases h : edge.target ∈ front.map (·.target)
    · rw [if_pos (List.mem_eraseDups.mpr h), List.removeAll,
        List.filter_cons_of_neg (by simpa using h)]
      exact (List.append_nil _).symm
    · rw [if_neg (mt List.mem_eraseDups.mp h), List.removeAll,
        List.filter_cons_of_pos (by simpa using h)]
      rfl

theorem nodup_targets_ofEdges (edges : List Edge) : (ofEdges edges).targets.Nodup := by
  rw [targets_ofEdges]
  exact List.nodup_eraseDups _

/-- Every edge is counted. -/
theorem size_ofEdges (edges : List Edge) : (ofEdges edges).size = edges.length := by
  induction edges using List.reverseRecOn with
  | nil => rfl
  | append_singleton front edge ih =>
    rw [ofEdges_concat, size_add, ih, List.length_append, List.length_singleton]

/-- The sources of the edges that lead to a target, in order. -/
def sourcesIn (edges : List Edge) (target : String) : List String :=
  (edges.filter (·.target = target)).map (·.source)

theorem sources_eq_sourcesIn (edges : List Edge) (target : String) :
    (ofEdges edges).sources target = sourcesIn edges target := by
  rw [ofEdges, sources_foldl_add]
  rfl

theorem sourcesIn_append (edges others : List Edge) (target : String) :
    sourcesIn (edges ++ others) target = sourcesIn edges target ++ sourcesIn others target := by
  rw [sourcesIn, List.filter_append, List.map_append]
  rfl

/-- A target has sources exactly if some edge leads to it. -/
theorem sourcesIn_eq_nil_iff {target : String} :
    sourcesIn edges target = [] ↔ target ∉ edges.map (·.target) := by
  simp [sourcesIn]

/-- Connections list their targets, each with its sources. -/
theorem eq_map_targets (h : connections.targets.Nodup) :
    connections = connections.targets.map fun target => (target, connections.sources target) := by
  have hentry : ∀ entry ∈ connections, (entry.1, connections.sources entry.1) = entry := by
    intro entry hentry
    rw [sources, Entries.get?_of_mem h hentry]
    rfl
  rw [targets, List.map_map]
  exact (List.map_id _).symm.trans (List.map_congr_left fun entry hmem => (hentry entry hmem).symm)

/-- The connections that edges make, target by target. -/
theorem ofEdges_eq (edges : List Edge) : ofEdges edges =
    (edges.map (·.target)).eraseDups.map fun target => (target, sourcesIn edges target) := by
  rw [eq_map_targets (nodup_targets_ofEdges edges), targets_ofEdges]
  simp only [sources_eq_sourcesIn]

example : ofEdges [⟨"1", "b", "x"⟩, ⟨"2", "a", "y"⟩, ⟨"3", "a", "x"⟩, ⟨"4", "b", "x"⟩] =
    [("x", ["b", "a", "b"]), ("y", ["a"])] := by decide

/-- A target has an entry exactly if some edge leads to it. -/
theorem get?_ofEdges (edges : List Edge) (target : String) : (ofEdges edges).get? target =
    if sourcesIn edges target = [] then none else some (sourcesIn edges target) := by
  have hmem : target ∈ (ofEdges edges).targets ↔ sourcesIn edges target ≠ [] := by
    rw [targets_ofEdges, List.mem_eraseDups, Ne, sourcesIn_eq_nil_iff, not_not]
  cases hfound : (ofEdges edges).get? target with
  | none =>
    have hsources := sources_eq_sourcesIn edges target
    rw [sources, hfound] at hsources
    exact (if_pos hsources.symm).symm
  | some found =>
    have hsources := sources_eq_sourcesIn edges target
    rw [sources, hfound] at hsources
    have htarget : target ∈ (ofEdges edges).targets :=
      List.mem_map.mpr ⟨_, List.mem_of_lookup_eq_some hfound, rfl⟩
    rw [if_neg (hmem.mp htarget), ← hsources]
    rfl

/-- The connections of two lists of edges are put together into those of both. -/
theorem ofEdges_append (edges others : List Edge) :
    ofEdges (edges ++ others) = (ofEdges edges).merge (ofEdges others) := by
  have hknown : ((edges.map (·.target)).eraseDups.map fun target =>
      (target, sourcesIn (edges ++ others) target)) =
      (ofEdges edges).map fun entry => (entry.1, entry.2 ++ (ofEdges others).sources entry.1) := by
    rw [ofEdges_eq edges, List.map_map]
    refine List.map_congr_left fun target _ => ?_
    simp only [Function.comp_apply, sourcesIn_append, sources_eq_sourcesIn]
  have hnew : (((others.map (·.target)).removeAll (edges.map (·.target))).eraseDups.map
      fun target => (target, sourcesIn (edges ++ others) target)) =
      (ofEdges others).filter fun entry => !(ofEdges edges).targets.contains entry.1 := by
    have hfilter : (fun entry : String × List String =>
        !(ofEdges edges).targets.contains entry.1) ∘
          (fun target => (target, sourcesIn others target)) =
        fun target => !(edges.map (·.target)).elem target := by
      funext target
      simp only [Function.comp_apply, targets_ofEdges, List.contains_eq_mem, List.mem_eraseDups]
    rw [ofEdges_eq others, List.filter_map, hfilter, List.removeAll, List.eraseDups_filter]
    refine List.map_congr_left fun target htarget => ?_
    -- none of the edges in front leads to a target that is new
    have hnone : sourcesIn edges target = [] :=
      sourcesIn_eq_nil_iff.mpr (by simpa using (List.mem_filter.mp htarget).2)
    rw [sourcesIn_append, hnone, List.nil_append]
  rw [ofEdges_eq, List.map_append, List.eraseDups_append, List.map_append, hknown, hnew]
  rfl

/-- Two lists of edges make the same connections, up to the order of targets, exactly if they lead
to every target from the same sources in the same order. -/
theorem forall_get?_ofEdges_iff : (∀ target, (ofEdges edges).get? target =
    (ofEdges others).get? target) ↔ ∀ target, sourcesIn edges target = sourcesIn others target := by
  refine forall_congr' fun target => ?_
  constructor
  · intro h
    rw [← sources_eq_sourcesIn, ← sources_eq_sourcesIn, sources, sources, h]
  · intro h
    rw [get?_ofEdges, get?_ofEdges, h]

/-- Connections with the same sources for every target differ in the order of targets at most. -/
theorem ofEdges_perm (h : ∀ target, sourcesIn edges target = sourcesIn others target) :
    (ofEdges edges).Perm (ofEdges others) := by
  have htargets : (edges.map (·.target)).eraseDups.Perm (others.map (·.target)).eraseDups := by
    apply (List.perm_ext_iff_of_nodup (List.nodup_eraseDups _) (List.nodup_eraseDups _)).mpr
    intro target
    rw [List.mem_eraseDups, List.mem_eraseDups, ← not_iff_not, ← sourcesIn_eq_nil_iff,
      ← sourcesIn_eq_nil_iff, h]
  rw [ofEdges_eq, ofEdges_eq, funext h]
  exact htargets.map _

/-- Connections hold exactly what edges say. Their targets are those of the edges, each once and in
the order in which edges first lead to them. The sources of a node, which are none if it is no
target, are those of the edges that lead to it, in their order and as often as they come. Together
they are as many as the edges. With further edges, the sources of these come behind those that a
target has, and further targets come last. Edges that lead to every target from the same sources
make the same connections, and no other edges do. -/
theorem ofEdges_faithful (edges : List Edge) :
    (ofEdges edges).targets = (edges.map (·.target)).eraseDups ∧
    (∀ nodes id, (ofEdges edges).sources id =
      ((Workflow.mk nodes edges).incoming id).map (·.source)) ∧
    ((ofEdges edges).map (·.2.length)).sum = edges.length ∧
    (∀ others, ofEdges (edges ++ others) = (ofEdges edges).merge (ofEdges others)) ∧
    ∀ others, (∀ id, sourcesIn edges id = sourcesIn others id) ↔
      (ofEdges edges).Perm (ofEdges others) ∧
        ∀ id, (ofEdges edges).get? id = (ofEdges others).get? id := by
  refine ⟨targets_ofEdges edges, fun nodes id => sources_ofEdges ⟨nodes, edges⟩ id,
    size_ofEdges edges, ofEdges_append edges, fun others => ⟨fun h => ?_, fun h => ?_⟩⟩
  · exact ⟨ofEdges_perm h, forall_get?_ofEdges_iff.mpr h⟩
  · exact forall_get?_ofEdges_iff.mp h.2

end Connections

end AgentCanvas
