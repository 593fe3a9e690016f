import AgentCanvas.Proofs.Graph.Places
import AgentCanvas.Proofs.Program.Blueprint

/-!
# Programs without ids

A program is made of the attributes of the agents, the runners and the tools, each kind in node
order, and of the places of the tools that feed each agent. Ids only serve to find those places.

## Key definitions

- `Workflow.SameCode`: two workflows have programs with the same text.

## Key results

- `Blueprint.code_eq`: what the text of a program is made of.
- `Workflow.toolNamesFor_eq`: the tool names of an agent follow from the places of its tools.
- `Workflow.sameCode_of_places`: workflows with the same attributes and places have the same
  program.
- `Workflow.sameCode_of_anonymous`: what the text of a program does not depend on.
-/

namespace AgentCanvas

/-- The text of a program is determined by the attributes of its agents, runners and tools and by
the tool names of each agent. -/
theorem Blueprint.code_eq {b c : Blueprint} {d : Defaults}
    (hagents : b.agents.map (·.value) = c.agents.map (·.value)) (hrunners : b.runners = c.runners)
    (htools : b.tools.map (·.value) = c.tools.map (·.value))
    (hnames : b.agents.map (fun agent => b.toolNamesFor d agent.id) =
      c.agents.map fun agent => c.toolNamesFor d agent.id) :
    b.code d = c.code d := by
  have hzip (b : Blueprint) : b.agentsPart d = joinParts
      (List.zipWith (Agent.declaration d) (b.agents.map (·.value))
        (b.agents.map fun agent => b.toolNamesFor d agent.id)) := by
    rw [agentsPart, List.zipWith_map, List.zipWith_self]
  have hcounts : b.agents.length = c.agents.length := by simpa using congrArg List.length hagents
  have htoolCounts : b.tools.length = c.tools.length := by simpa using congrArg List.length htools
  have hparts : b.part d = c.part d := by
    funext part
    cases part with
    | imports => simp only [Blueprint.part, hcounts, htoolCounts]
    | schemas => simp only [Blueprint.part, hagents]
    | tools => simp only [Blueprint.part, htools]
    | client => simp only [Blueprint.part, hcounts]
    | agents => simp only [Blueprint.part, hzip, hagents, hnames]
    | runners => rfl
    | entryPoint => simp only [Blueprint.part, hagents, hrunners]
  rw [code, code, hparts]

namespace Workflow

/-- Two workflows both have a program, and these have the same text. -/
def SameCode (d : Defaults) (w v : Workflow) : Prop :=
  ∃ g g', w.generate d = .ok g ∧ v.generate d = .ok g' ∧ g.code = g'.code

variable {w v : Workflow} {b c : Blueprint} {d : Defaults}

/-- Where ids are distinct, a tool's name is found at the place of its id. -/
theorem toolName?_eq (hids : w.DistinctIds) (hb : w.blueprint = .ok b) (id : String) :
    b.toolName? d id =
      (w.toolIds.idxOf? id).bind ((b.tools.map (·.value.functionName d))[·]?) := by
  have htoolIds : w.toolIds = b.tools.map (·.id) := ids_tools hb
  have hnodup : (b.tools.map (·.id)).Nodup := by
    rw [← htoolIds]
    exact List.Nodup.sublist (List.Sublist.map _ List.filter_sublist) hids
  rw [Blueprint.toolName?, List.find?_reverse_of_nodup_map hnodup, List.find?_eq_bind_idxOf?,
    ← htoolIds, Option.map_bind]
  congr 1
  funext place
  simp

/-- The tool names of an agent follow from the places of its tools. -/
theorem toolNamesFor_eq (hids : w.DistinctIds) (hb : w.blueprint = .ok b) (id : String) :
    b.toolNamesFor d id =
      ((w.toolPlaces id).filterMap ((b.tools.map (·.value.functionName d))[·]?)).eraseDups := by
  obtain ⟨-, -, -, hconnections⟩ := blueprint_eq_ok_iff.mp hb
  rw [Blueprint.toolNamesFor, hconnections, Connections.sources_ofEdges, List.filterMap_map,
    toolPlaces, List.eraseDups_filterMap_eraseDups, List.filterMap_filterMap]
  simp only [Function.comp_def, toolName?_eq hids hb]

/-- The tool names of all agents follow from the places of their tools. -/
theorem map_toolNamesFor_eq (hids : w.DistinctIds) (hb : w.blueprint = .ok b) :
    b.agents.map (fun agent => b.toolNamesFor d agent.id) =
      ((w.nodesOfKind .agent).map (w.toolPlaces ·.id)).map fun places =>
        (places.filterMap ((b.tools.map (·.value.functionName d))[·]?)).eraseDups := by
  calc b.agents.map (fun agent => b.toolNamesFor d agent.id)
    _ = (b.agents.map (·.id)).map (b.toolNamesFor d) := by rw [List.map_map]; rfl
    _ = (w.nodesOfKind .agent).map fun agent => b.toolNamesFor d agent.id := by
        rw [← ids_agents hb, List.map_map]; rfl
    _ = _ := by
        rw [List.map_map]
        exact List.map_congr_left fun agent _ => toolNamesFor_eq hids hb agent.id

/-- Attributes of one kind that were read from the same results are the same. -/
private theorem eq_of_map_ok_eq {α : Type} {f : α → Attributes} (hf : Function.Injective f)
    {as bs : List α} (h : as.map (fun a => (.ok (f a) : Except Rejection Attributes)) =
      bs.map fun b => .ok (f b)) : as = bs :=
  List.map_injective_iff.mpr (fun _ _ heq => hf (Except.ok.inj heq)) h

/-- Workflows with the same attributes of each kind and the same places of tools have the same
program. -/
theorem sameCode_of_places (hw : w.DistinctIds) (hv : v.DistinctIds) (hwr : w.Readable)
    (hvr : v.Readable)
    (hattributes : ∀ kind, (w.nodesOfKind kind).map Node.attributes =
      (v.nodesOfKind kind).map Node.attributes)
    (hplaces : (w.nodesOfKind .agent).map (w.toolPlaces ·.id) =
      (v.nodesOfKind .agent).map (v.toolPlaces ·.id)) :
    SameCode d w v := by
  obtain ⟨g, hg⟩ := exists_generate_eq_ok_iff.mpr hwr
  obtain ⟨g', hg'⟩ := exists_generate_eq_ok_iff.mpr hvr
  refine ⟨g, g', hg, hg', ?_⟩
  obtain ⟨_, b, -, hb, rfl⟩ := generate_eq_ok_iff.mp hg
  obtain ⟨_, c, -, hc, rfl⟩ := generate_eq_ok_iff.mp hg'
  have hagents : b.agents.map (·.value) = c.agents.map (·.value) :=
    eq_of_map_ok_eq (fun _ _ => Attributes.agent.inj)
      ((attributes_agents hb).symm.trans ((hattributes .agent).trans (attributes_agents hc)))
  have htools : b.tools.map (·.value) = c.tools.map (·.value) :=
    eq_of_map_ok_eq (fun _ _ => Attributes.tool.inj)
      ((attributes_tools hb).symm.trans ((hattributes .tool).trans (attributes_tools hc)))
  -- runners are read only if there is an agent, which the attributes of the agents tell
  have hactive : w.activeRunners.map Node.attributes = v.activeRunners.map Node.attributes := by
    have hnone : (w.nodesOfKind .agent).isEmpty = (v.nodesOfKind .agent).isEmpty := by
      simpa using congrArg List.isEmpty (hattributes .agent)
    rw [activeRunners, activeRunners, hnone]
    split
    · rfl
    · exact hattributes .runner
  have hrunners : b.runners = c.runners := by
    obtain ⟨-, -, hb, -⟩ := blueprint_eq_ok_iff.mp hb
    obtain ⟨-, -, hc, -⟩ := blueprint_eq_ok_iff.mp hc
    exact eq_of_map_ok_eq (fun _ _ => Attributes.runner.inj) (hb.symm.trans (hactive.trans hc))
  have hfunctions : b.tools.map (·.value.functionName d) =
      c.tools.map (·.value.functionName d) := by
    simpa [Function.comp_def] using congrArg (List.map (Tool.functionName d)) htools
  refine Blueprint.code_eq hagents hrunners htools ?_
  rw [map_toolNamesFor_eq hw hb, map_toolNamesFor_eq hv hc, hplaces, hfunctions]

/-- Renaming the nodes of each kind and their links does not change the program, nor does repeating
links. -/
theorem sameCode_of_links (hw : w.DistinctIds) (hv : v.DistinctIds) (hwr : w.Readable)
    (hvr : v.Readable) {f : String → String} (hf : Function.Injective f)
    (hnodes : ∀ kind, (v.nodesOfKind kind).map Node.view =
      (w.nodesOfKind kind).map fun node => (f node.id, node.attributes))
    (hlinks : v.toolLinks.eraseDups = (w.toolLinks.map (Prod.map f f)).eraseDups) :
    SameCode d w v := by
  have htools : v.toolIds = w.toolIds.map f := by
    simpa [toolIds, Node.view, Function.comp_def] using congrArg (List.map Prod.fst) (hnodes .tool)
  have hagents : (v.nodesOfKind .agent).map (·.id) = (w.nodesOfKind .agent).map (f ·.id) := by
    simpa [Node.view, Function.comp_def] using congrArg (List.map Prod.fst) (hnodes .agent)
  have hplaces : ∀ agent ∈ w.nodesOfKind .agent,
      v.toolPlaces (f agent.id) = w.toolPlaces agent.id := by
    intro agent hagent
    have hmem : f agent.id ∈ (v.nodesOfKind .agent).map (·.id) := by
      rw [hagents]
      exact List.mem_map.mpr ⟨agent, hagent, rfl⟩
    -- the agent of the other workflow that has the new id
    obtain ⟨other, hother, hid⟩ := List.mem_map.mp hmem
    rw [← hid, toolPlaces_eq_of_links hw hv hf htools hlinks hagent hother hid]
  refine sameCode_of_places hw hv hwr hvr (fun kind => ?_) ?_
  · simpa [Node.view, Function.comp_def] using (congrArg (List.map Prod.snd) (hnodes kind)).symm
  · calc (w.nodesOfKind .agent).map (w.toolPlaces ·.id)
      _ = (w.nodesOfKind .agent).map (fun agent => v.toolPlaces (f agent.id)) :=
          List.map_congr_left fun agent hagent => (hplaces agent hagent).symm
      _ = ((v.nodesOfKind .agent).map (·.id)).map v.toolPlaces := by
          rw [hagents, List.map_map]; rfl
      _ = (v.nodesOfKind .agent).map (v.toolPlaces ·.id) := by rw [List.map_map]; rfl

/-- The text of a program does not depend on ids. -/
theorem sameCode_rename (hids : w.DistinctIds) (hreadable : w.Readable) {f : String → String}
    (hf : Function.Injective f) : SameCode d w (w.rename f) := by
  refine sameCode_of_links hids (hids.rename hf) hreadable ?_ hf (fun kind => ?_) ?_
  · intro node hnode
    obtain ⟨old, hold, rfl⟩ := List.mem_map.mp hnode
    exact hreadable old hold
  · rw [nodesOfKind_rename, List.map_map]
    rfl
  · rw [toolLinks_rename hf]

/-! ## What the text of a program depends on -/

/-- The text of a program is determined by the attributes of the nodes of each kind, in node order,
and by the places of the tools that feed each agent. Hence it is the same for workflows whose nodes
of each kind and whose links from tools to agents differ in their ids only, repeated links counting
once: positions, the ids of edges, the order of nodes of different kinds and all other edges do not
matter. In particular the ids of a workflow may be renamed. -/
theorem sameCode_of_anonymous (d : Defaults) {w v : Workflow} (hw : w.DistinctIds)
    (hv : v.DistinctIds) (hwr : w.Readable) (hvr : v.Readable) :
    ((∀ kind, (w.nodesOfKind kind).map Node.attributes =
        (v.nodesOfKind kind).map Node.attributes) →
      (w.nodesOfKind .agent).map (w.toolPlaces ·.id) =
        (v.nodesOfKind .agent).map (v.toolPlaces ·.id) → SameCode d w v) ∧
    (∀ f : String → String, Function.Injective f →
      (∀ kind, (v.nodesOfKind kind).map (fun node => (node.id, node.attributes)) =
        (w.nodesOfKind kind).map fun node => (f node.id, node.attributes)) →
      v.toolLinks.eraseDups = (w.toolLinks.map fun link => (f link.1, f link.2)).eraseDups →
        SameCode d w v) ∧
    (∀ f : String → String, Function.Injective f → SameCode d w (w.rename f)) :=
  ⟨sameCode_of_places hw hv hwr hvr, fun _ => sameCode_of_links hw hv hwr hvr,
    fun _ => sameCode_rename hw hwr⟩

/-- An agent with two tools, the second one connected first. -/
def tidy : Workflow where
  nodes := [⟨"t", .tool, ⟨.zero, .zero⟩, .obj [("name", .str "look")]⟩,
    ⟨"u", .tool, ⟨.zero, .zero⟩, .obj [("name", .str "leap")]⟩,
    ⟨"a", .agent, ⟨.zero, .zero⟩, .obj []⟩, ⟨"r", .runner, ⟨.zero, .zero⟩, .obj []⟩]
  edges := [⟨"e", "u", "a"⟩, ⟨"f", "t", "a"⟩]

/-- The same agent and tools under other ids, at other positions and in another order, with edges
that are repeated, reversed or without a source. -/
def tangled : Workflow where
  nodes := [⟨"1", .runner, ⟨.one, .zero⟩, .obj []⟩,
    ⟨"2", .tool, ⟨.zero, .one⟩, .obj [("name", .str "look")]⟩,
    ⟨"3", .agent, ⟨.one, .one⟩, .obj []⟩,
    ⟨"4", .tool, ⟨.zero, .nan⟩, .obj [("name", .str "leap")]⟩]
  edges := [⟨"", "4", "3"⟩, ⟨"", "3", "1"⟩, ⟨"", "3", "2"⟩, ⟨"", "2", "3"⟩, ⟨"", "4", "3"⟩,
    ⟨"", "5", "3"⟩]

/-- The tidy and the tangled workflow have the same program, and so has the tidy one with longer
ids. -/
theorem sameCode_of_anonymous_tangled :
    SameCode Defaults.builtIn tidy tangled ∧
      SameCode Defaults.builtIn tidy (tidy.rename fun id => "node" ++ id) := by
  have hids : tidy.DistinctIds := by decide
  have hids' : tangled.DistinctIds := by decide
  have hreadable : tidy.Readable := by
    simp only [Readable, tidy, List.forall_mem_cons]
    exact ⟨⟨_, rfl⟩, ⟨_, rfl⟩, ⟨_, rfl⟩, ⟨_, rfl⟩, List.forall_mem_nil _⟩
  have hreadable' : tangled.Readable := by
    simp only [Readable, tangled, List.forall_mem_cons]
    exact ⟨⟨_, rfl⟩, ⟨_, rfl⟩, ⟨_, rfl⟩, ⟨_, rfl⟩, List.forall_mem_nil _⟩
  have hinjective : Function.Injective fun id => "node" ++ id := fun _ _ h =>
    (String.append_right_inj "node").mp h
  obtain ⟨hplaces, -, hrename⟩ :=
    sameCode_of_anonymous Defaults.builtIn hids hids' hreadable hreadable'
  refine ⟨hplaces (fun kind => ?_) (by decide), hrename _ hinjective⟩
  cases kind <;> rfl

end Workflow

end AgentCanvas
