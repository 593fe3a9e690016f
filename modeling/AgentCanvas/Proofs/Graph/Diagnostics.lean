import AgentCanvas.Graph.Diagnostics
import AgentCanvas.Proofs.Graph.Roles

/-!
# What diagnostics tell

Diagnosing reads the runners that no agent feeds and the agents, and fails only if one of them is
unreadable. A workflow is left without diagnostics exactly if it makes sense: something is there to
run, every edge has a role, every runner executes an agent and agents can be told apart by name.

## Key definitions

- `Diagnostic.initial`: the character with which the wording of a diagnostic begins.
- `Workflow.Sensible`: the rules that a workflow keeps.

## Key results

- `Diagnostic.head?_message`: by their first characters, wordings can be told apart.
- `Workflow.exists_diagnose_eq_ok_iff`: when diagnosing succeeds.
- `mem_repeatedNames_iff`: the names that are found to be repeated.
- `Workflow.diagnose_eq_nil_iff_sensible`: diagnosing is sound and complete for the rules.
-/

namespace AgentCanvas

/-- A runner is diagnosed exactly if it can be read. -/
theorem Workflow.failure?_unconnected (node : Node) :
    (unconnected node).failure? = node.asRunner.failure? := by
  unfold unconnected
  cases node.asRunner <;> rfl

/-! ## Wording -/

/-- The character with which the wording of a diagnostic begins. -/
def Diagnostic.initial : Diagnostic → Char
  | noNodes => 'n'
  | noAgent | noRunner => 'w'
  | unconnectedRunner _ => 'R'
  | repeatedAgentName _ => 'd'
  | unknownNode _ _ | invalidConnection _ _ _ => 'e'

private theorem head?_toList_append {front : String} {c : Char} (h : front.toList.head? = some c)
    (rest : String) : (front ++ rest).toList.head? = some c := by
  rw [String.toList_append, List.head?_append, h, Option.some_or]

theorem Diagnostic.head?_message (x : Diagnostic) : x.message.toList.head? = some x.initial := by
  have hedge : "edge '".toList.head? = some 'e' := by decide
  cases x with
  | noNodes | noAgent | noRunner => decide
  | unconnectedRunner label =>
    change ("Runner node '" ++ label ++ "' is not connected to any Agent").toList.head? = _
    rw [String.append_assoc]
    exact head?_toList_append (show "Runner node '".toList.head? = some 'R' by decide) _
  | repeatedAgentName name =>
    exact head?_toList_append (show "duplicate Agent name: ".toList.head? = some 'd' by decide) _
  | unknownNode edge node =>
    change ("edge '" ++ edge ++ "' references unknown node '" ++ node ++ "'").toList.head? = _
    simp only [String.append_assoc]
    exact head?_toList_append hedge _
  | invalidConnection edge source target =>
    change ("edge '" ++ edge ++ "' connects " ++ source.name ++ " to " ++ target.name ++
      ", which is not a valid connection").toList.head? = _
    simp only [String.append_assoc]
    exact head?_toList_append hedge _

/-! ## Repeated names -/

/-- A name is found to be repeated if it is not known to be so already and occurs a second time,
occurrences that were seen before included. -/
theorem mem_repeatedNames_iff {name : String} {seen found names : List String} :
    name ∈ repeatedNames seen found names ↔
      name ∉ found ∧ (name ∈ seen ∧ name ∈ names ∨ 2 ≤ names.count name) := by
  induction names generalizing seen found with
  | nil => simp [repeatedNames]
  | cons first rest ih =>
    have hcount : 1 ≤ rest.count name ↔ name ∈ rest := List.one_le_count_iff
    rw [repeatedNames]
    split
    -- the first name is repeated: it is found here, any other one later
    next hfirst =>
      have hfirst : first ∈ seen ∧ first ∉ found := by simpa using hfirst
      by_cases hname : name = first
      · simp [hname, hfirst]
      · simp [hname, Ne.symm hname, ih]
    -- the first name is new or known to be repeated, and from here on it counts as seen
    next hfirst =>
      have hfirst : first ∈ seen → first ∈ found := by simpa using hfirst
      rw [ih]
      by_cases hname : name = first
      · subst hname
        simp only [List.mem_cons_self, true_and, List.count_cons_self]
        refine and_congr_right fun hfound => ?_
        have hseen : name ∉ seen := fun h => hfound (hfirst h)
        simp only [hseen, false_and, false_or]
        rw [← hcount]
        omega
      · simp [hname, Ne.symm hname]

/-- No name is repeated exactly if none stands in the list twice. -/
theorem repeatedNames_eq_nil_iff {names : List String} :
    repeatedNames [] [] names = [] ↔ names.Nodup := by
  rw [List.eq_nil_iff_forall_not_mem, List.nodup_iff_count_le_one]
  refine forall_congr' fun name => ?_
  rw [mem_repeatedNames_iff]
  simp only [List.not_mem_nil, not_false_eq_true, false_and, false_or, true_and]
  omega

namespace Workflow

variable {w : Workflow}

/-! ## Reading -/

/-- An agent feeds a node exactly if an edge leads to the node whose source is an agent. -/
theorem isFed_iff {id : String} :
    w.isFed id ↔ ∃ edge ∈ w.edges, edge.target = id ∧
      ∃ source, w.node? edge.source = some source ∧ source.kind = .agent := by
  simp only [isFed, incoming, List.any_filter, List.any_eq_true, Bool.and_eq_true,
    decide_eq_true_eq]
  constructor
  · rintro ⟨edge, hedge, htarget, hsource⟩
    refine ⟨edge, hedge, htarget, ?_⟩
    split at hsource
    next source hfound => exact ⟨source, hfound, of_decide_eq_true hsource⟩
    next => cases hsource
  · rintro ⟨edge, hedge, htarget, source, hfound, hkind⟩
    exact ⟨edge, hedge, htarget, by simp [hfound, hkind]⟩

theorem mem_unfedRunners {node : Node} :
    node ∈ w.unfedRunners ↔ node ∈ w.nodesOfKind .runner ∧ w.isFed node.id = false := by
  simp [unfedRunners]

/-- Diagnosing fails with the first rejection of a runner that no agent feeds or of an agent. -/
theorem failure?_diagnose :
    w.diagnose.failure? = (w.unfedRunners ++ w.nodesOfKind .agent).findSome? Node.rejection? := by
  unfold diagnose
  split
  -- a workflow without nodes is diagnosed without reading anything
  next hempty =>
    simp [unfedRunners, nodesOfKind, List.isEmpty_iff.mp hempty]
  next =>
    have hrunners : (w.unfedRunners.mapM unconnected).failure? =
        w.unfedRunners.findSome? Node.rejection? :=
      Except.failure?_mapM fun node hnode => (failure?_unconnected node).trans
        (Node.failure?_asRunner (mem_nodesOfKind.mp (mem_unfedRunners.mp hnode).1).2)
    have hnames : w.agentNames.failure? = (w.nodesOfKind .agent).findSome? Node.rejection? := by
      rw [← Except.failure?_mapM fun node hnode =>
        Node.failure?_asAgent (mem_nodesOfKind.mp hnode).2]
      unfold agentNames
      cases (w.nodesOfKind .agent).mapM Node.asAgent <;> rfl
    -- what comes behind the two traversals cannot fail
    rw [Except.failure?_bind _ w.agentNames.failure?, hrunners, hnames, List.findSome?_append]
    intro runners
    cases w.agentNames <;> rfl

/-- Diagnosing succeeds exactly if the agents and the runners that no agent feeds can be read. -/
theorem exists_diagnose_eq_ok_iff :
    (∃ diagnostics, w.diagnose = .ok diagnostics) ↔
      ∀ node ∈ w.unfedRunners ++ w.nodesOfKind .agent, node.Readable := by
  rw [← Except.failure?_eq_none_iff, failure?_diagnose, List.findSome?_eq_none_iff]
  simp only [Node.rejection?_eq_none_iff]

/-- Diagnosing reads no other nodes than agents and runners that no agent feeds. -/
theorem mem_unfedRunners_append_agents {node : Node} :
    node ∈ w.unfedRunners ++ w.nodesOfKind .agent ↔
      node ∈ w.nodes ∧ (node ∈ w.unfedRunners ∨ node.kind = .agent) := by
  rw [List.mem_append, mem_nodesOfKind, and_or_left]
  refine or_congr ?_ Iff.rfl
  rw [iff_and_self, mem_unfedRunners, mem_nodesOfKind]
  exact fun h => h.1.1

/-! ## Rules -/

/-- The rules of a workflow that makes sense. -/
structure Sensible (w : Workflow) : Prop where
  /-- There is something to run. -/
  hasAgent : ∃ node ∈ w.nodes, node.kind = .agent
  hasRunner : ∃ node ∈ w.nodes, node.kind = .runner
  /-- Every edge has a role. -/
  connected : ∀ edge ∈ w.edges, w.role? edge ≠ none
  /-- Every runner executes some agent. -/
  executed : ∀ runner ∈ w.nodes, runner.kind = .runner →
    ∃ edge ∈ w.edges, edge.target = runner.id ∧ w.role? edge = some .execute
  /-- No two agents have the same name, unless it is empty. -/
  named : (w.nodesOfKind .agent).Pairwise fun node other => ∀ a b,
    node.attributes = .ok (.agent a) → other.attributes = .ok (.agent b) → a.name ≠ "" →
      a.name ≠ b.name

theorem presenceDiagnostics_eq_nil_iff : w.presenceDiagnostics = [] ↔
    (∃ node ∈ w.nodes, node.kind = .agent) ∧ ∃ node ∈ w.nodes, node.kind = .runner := by
  simp [presenceDiagnostics, nodesOfKind]

/-- An edge goes without diagnostics exactly if it has a role. -/
theorem edgeDiagnostics_eq_nil_iff {edge : Edge} :
    w.edgeDiagnostics edge = [] ↔ w.role? edge ≠ none := by
  unfold edgeDiagnostics
  cases hsource : w.node? edge.source <;> cases htarget : w.node? edge.target
  · simp [role?, roleBetween, hsource]
  · simp [role?, roleBetween, hsource]
  · simp [role?, roleBetween, htarget]
  · simp [← Option.ne_none_iff_isSome]

/-- Where ids are distinct, an agent feeds a runner exactly through an edge that executes it. -/
theorem DistinctIds.isFed_iff_execute (h : w.DistinctIds) {runner : Node}
    (hrunner : runner ∈ w.nodesOfKind .runner) : w.isFed runner.id ↔
      ∃ edge ∈ w.edges, edge.target = runner.id ∧ w.role? edge = some .execute := by
  obtain ⟨hmem, hkind⟩ := mem_nodesOfKind.mp hrunner
  simp only [isFed_iff, role?_eq_execute_iff]
  constructor
  · rintro ⟨edge, hedge, htarget, source, hsource, hagent⟩
    exact ⟨edge, hedge, htarget, source, runner, hsource, h.node?_target hmem htarget, hagent,
      hkind⟩
  · rintro ⟨edge, hedge, htarget, source, -, hsource, -, hagent, -⟩
    exact ⟨edge, hedge, htarget, source, hsource, hagent⟩

theorem DistinctIds.unfedRunners_eq_nil_iff (h : w.DistinctIds) : w.unfedRunners = [] ↔
    ∀ runner ∈ w.nodes, runner.kind = .runner →
      ∃ edge ∈ w.edges, edge.target = runner.id ∧ w.role? edge = some .execute := by
  rw [unfedRunners, List.filter_eq_nil_iff]
  constructor
  · intro hfed runner hmem hkind
    have hrunner := mem_nodesOfKind.mpr ⟨hmem, hkind⟩
    exact (h.isFed_iff_execute hrunner).mp (by simpa using hfed runner hrunner)
  · intro hexecuted runner hrunner
    obtain ⟨hmem, hkind⟩ := mem_nodesOfKind.mp hrunner
    simp [(h.isFed_iff_execute hrunner).mpr (hexecuted runner hmem hkind)]

/-- The names are those of the agents, without the empty ones. -/
theorem agentNames_eq_ok_iff {names : List String} : w.agentNames = .ok names ↔
    ∃ agents : List Agent, (w.nodesOfKind .agent).map Node.attributes =
      agents.map (fun a => .ok (.agent a)) ∧ (agents.map (·.name)).filter (· ≠ "") = names := by
  have hagents (agents : List Agent) : (w.nodesOfKind .agent).mapM Node.asAgent = .ok agents ↔
      (w.nodesOfKind .agent).map Node.attributes = agents.map fun a => .ok (.agent a) :=
    Except.mapM_eq_ok_iff fun node hnode _ =>
      (Node.attributes_eq_agent_iff (mem_nodesOfKind.mp hnode).2).symm
  simp only [agentNames, Except.bind_eq_ok_iff, hagents, pure, Except.pure, Except.ok.injEq]

/-- No name is repeated exactly if no two agents share one. -/
theorem nodup_iff_of_agentNames {names : List String} (h : w.agentNames = .ok names) :
    names.Nodup ↔ (w.nodesOfKind .agent).Pairwise fun node other => ∀ a b,
      node.attributes = .ok (.agent a) → other.attributes = .ok (.agent b) → a.name ≠ "" →
        a.name ≠ b.name := by
  obtain ⟨agents, hagents, rfl⟩ := agentNames_eq_ok_iff.mp h
  -- the condition speaks of the attributes only, so it may be read off the list of agents
  have hnodes := List.pairwise_map (f := Node.attributes) (l := w.nodesOfKind .agent)
    (R := fun x y => ∀ a b, x = .ok (.agent a) → y = .ok (.agent b) → a.name ≠ "" →
      a.name ≠ b.name)
  rw [← hnodes, hagents, List.pairwise_map, List.Nodup, List.pairwise_filter, List.pairwise_map]
  refine List.Pairwise.iff fun a b => ?_
  simp only [Except.ok.injEq, Attributes.agent.injEq, decide_eq_true_eq]
  constructor
  · rintro hne _ _ rfl rfl ha heq
    exact hne ha (heq ▸ ha) heq
  · exact fun hne ha _ => hne a b rfl rfl ha

/-- The diagnostics of a workflow with nodes. -/
theorem diagnose_eq_ok_iff (hnodes : w.nodes ≠ []) {diagnostics : List Diagnostic} :
    w.diagnose = .ok diagnostics ↔ ∃ runners names, w.unfedRunners.mapM unconnected = .ok runners ∧
      w.agentNames = .ok names ∧ w.presenceDiagnostics ++ runners ++
        (repeatedNames [] [] names).map .repeatedAgentName ++ w.edges.flatMap w.edgeDiagnostics =
          diagnostics := by
  have hempty : w.nodes.isEmpty = false := by simpa using hnodes
  simp only [diagnose, hempty, Bool.false_eq_true, if_false, Except.bind_eq_ok_iff, pure,
    Except.pure, Except.ok.injEq]
  constructor
  · rintro ⟨runners, hrunners, names, hnames, rfl⟩
    exact ⟨runners, names, hrunners, hnames, rfl⟩
  · rintro ⟨runners, names, hrunners, hnames, rfl⟩
    exact ⟨runners, hrunners, names, hnames, rfl⟩

/-- Where ids are distinct and all attributes can be read, diagnosing succeeds, and it finds nothing
exactly if the workflow makes sense. -/
theorem diagnose_eq_nil_iff_sensible {w : Workflow} (hids : w.DistinctIds)
    (hreadable : w.Readable) :
    (∃ diagnostics, w.diagnose = .ok diagnostics) ∧ (w.diagnose = .ok [] ↔ w.Sensible) := by
  have hok : ∃ diagnostics, w.diagnose = .ok diagnostics :=
    exists_diagnose_eq_ok_iff.mpr fun node hnode =>
      hreadable node (mem_unfedRunners_append_agents.mp hnode).1
  refine ⟨hok, ?_⟩
  obtain ⟨diagnostics, hdiagnostics⟩ := hok
  by_cases hnodes : w.nodes = []
  -- an empty workflow has a diagnostic and no agent
  · have hdiagnose : w.diagnose = .ok [.noNodes] := by simp [diagnose, hnodes]
    constructor
    · intro hnone
      rw [hdiagnose] at hnone
      cases hnone
    · intro hsensible
      obtain ⟨node, hnode, -⟩ := hsensible.hasAgent
      simp [hnodes] at hnode
  -- else each block of diagnostics is empty exactly if its rules are kept
  · obtain ⟨runners, names, hrunners, hnames, rfl⟩ := (diagnose_eq_ok_iff hnodes).mp hdiagnostics
    have hunfed : runners = [] ↔ w.unfedRunners = [] := by
      rw [← List.length_eq_zero_iff, ← List.length_eq_zero_iff,
        Except.length_eq_of_mapM_eq_ok hrunners]
    have hedges : w.edges.flatMap w.edgeDiagnostics = [] ↔
        ∀ edge ∈ w.edges, w.role? edge ≠ none := by
      simp only [List.flatMap_eq_nil_iff, edgeDiagnostics_eq_nil_iff]
    rw [hdiagnostics, Except.ok.injEq, List.append_eq_nil_iff, List.append_eq_nil_iff,
      List.append_eq_nil_iff, presenceDiagnostics_eq_nil_iff, hunfed, hids.unfedRunners_eq_nil_iff,
      List.map_eq_nil_iff, repeatedNames_eq_nil_iff, nodup_iff_of_agentNames hnames, hedges]
    constructor
    · rintro ⟨⟨⟨⟨hagent, hrunner⟩, hexecuted⟩, hnamed⟩, hconnected⟩
      exact ⟨hagent, hrunner, hconnected, hexecuted, hnamed⟩
    · rintro ⟨hagent, hrunner, hconnected, hexecuted, hnamed⟩
      exact ⟨⟨⟨⟨hagent, hrunner⟩, hexecuted⟩, hnamed⟩, hconnected⟩

/-- A named agent that hands over to two unnamed ones and has a tool, and a runner that the node
with the given id leads to. -/
def relay (source : String) : Workflow where
  nodes := [⟨"a", .agent, ⟨.zero, .zero⟩, .obj [("name", .str "Ann")]⟩,
    ⟨"b", .agent, ⟨.zero, .zero⟩, .obj [("name", .str "")]⟩,
    ⟨"c", .agent, ⟨.zero, .zero⟩, .obj [("name", .str "")]⟩,
    ⟨"t", .tool, ⟨.zero, .zero⟩, .obj []⟩, ⟨"r", .runner, ⟨.zero, .zero⟩, .obj []⟩]
  edges := [⟨"1", "a", "b"⟩, ⟨"2", "a", "c"⟩, ⟨"3", "t", "a"⟩, ⟨"4", source, "r"⟩]

/-- The relay makes sense if its runner executes the named agent, but not if only the tool leads to
the runner. -/
theorem diagnose_eq_nil_iff_sensible_relay :
    ((relay "a").DistinctIds ∧ (relay "a").Readable ∧ (relay "a").diagnose = .ok [] ∧
      (relay "a").Sensible) ∧
    (relay "t").DistinctIds ∧ (relay "t").Readable ∧ ¬(relay "t").Sensible := by
  have hids (source : String) : (relay source).DistinctIds := by
    change ["a", "b", "c", "t", "r"].Nodup
    decide
  have hreadable (source : String) : (relay source).Readable := by
    simp only [Readable, relay, List.forall_mem_cons]
    exact ⟨⟨_, rfl⟩, ⟨_, rfl⟩, ⟨_, rfl⟩, ⟨_, rfl⟩, ⟨_, rfl⟩, List.forall_mem_nil _⟩
  refine ⟨⟨hids _, hreadable _, rfl, ?_⟩, hids _, hreadable _, fun hsensible => ?_⟩
  · exact (diagnose_eq_nil_iff_sensible (hids _) (hreadable _)).2.mp rfl
  · have hnone := (diagnose_eq_nil_iff_sensible (hids _) (hreadable _)).2.mpr hsensible
    have hfound : (relay "t").diagnose =
        .ok [.unconnectedRunner "r", .invalidConnection "4" .tool .runner] := rfl
    rw [hfound] at hnone
    cases hnone

end Workflow

end AgentCanvas
