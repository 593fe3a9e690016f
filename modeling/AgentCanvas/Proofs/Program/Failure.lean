import AgentCanvas.Program.Generation
import AgentCanvas.Proofs.Graph.Diagnostics
import AgentCanvas.Proofs.Graph.Session

/-!
# When generation fails

Diagnosing a workflow reads the attributes of some nodes and generating its program those of
others. Together they read every node, so generation fails exactly if some node is unreadable, and
with the rejection of the first one that is read.

## Key definitions

- `Workflow.readingOrder`: all nodes in the order in which their attributes are first read.

## Key results

- `Workflow.failure?_generate`: the rejection that generation ends with.
- `Workflow.generate_session`: the outcome of generation after any session.
-/

namespace AgentCanvas

/-- Keeping the id of a node does not change why it cannot be read. -/
theorem Node.failure?_identify {α : Type} (read : Node → Except Rejection α) (node : Node) :
    (node.identify read).failure? = (read node).failure? := by
  unfold Node.identify
  cases read node <;> rfl

namespace Workflow

variable (w : Workflow)

/-! ## The order of reading -/

/-- The runners that some agent feeds. -/
def fedRunners : List Node :=
  (w.nodesOfKind .runner).filter fun node => w.isFed node.id

/-- All nodes in the order in which their attributes are first read: diagnosing needs the runners
that no agent feeds and the agents, the program needs the tools and the other runners. -/
def readingOrder : List Node :=
  w.unfedRunners ++ w.nodesOfKind .agent ++ w.nodesOfKind .tool ++ w.fedRunners

variable {w}

theorem mem_fedRunners {node : Node} :
    node ∈ w.fedRunners ↔ node ∈ w.nodesOfKind .runner ∧ w.isFed node.id := by
  simp [fedRunners]

theorem mem_activeRunners {node : Node} :
    node ∈ w.activeRunners ↔ node ∈ w.nodesOfKind .runner ∧ w.nodesOfKind .agent ≠ [] := by
  unfold activeRunners
  split <;> simp_all

/-- Where there is an agent, all runners are active. -/
theorem activeRunners_eq_nodesOfKind (h : w.nodesOfKind .agent ≠ []) :
    w.activeRunners = w.nodesOfKind .runner := by
  rw [activeRunners, if_neg (by simpa using h)]

/-- The source of a fed node is among the agents. -/
theorem nodesOfKind_agent_ne_nil_of_isFed {id : String} (h : w.isFed id) :
    w.nodesOfKind .agent ≠ [] := by
  obtain ⟨_, -, -, source, hsource, hkind⟩ := isFed_iff.mp h
  exact List.ne_nil_of_mem (mem_nodesOfKind.mpr ⟨List.mem_of_find?_eq_some hsource, hkind⟩)

/-- Fed runners are active: where a runner is fed, there is an agent. -/
theorem fedRunners_eq_filter_activeRunners :
    w.fedRunners = w.activeRunners.filter fun node => w.isFed node.id := by
  unfold activeRunners fedRunners
  split
  next hagents =>
    rw [List.filter_nil, List.filter_eq_nil_iff]
    exact fun node _ hfed => nodesOfKind_agent_ne_nil_of_isFed hfed (List.isEmpty_iff.mp hagents)
  next => rfl

/-- The order of reading leaves out no node. -/
theorem mem_readingOrder {node : Node} : node ∈ w.readingOrder ↔ node ∈ w.nodes := by
  simp only [readingOrder, List.mem_append, mem_unfedRunners, mem_fedRunners, mem_nodesOfKind]
  -- a runner stands in the list that its edges put it in, any other node in that of its kind
  cases hkind : node.kind <;> cases w.isFed node.id <;> simp

/-! ## Rejections -/

/-- A blueprint fails with the first rejection of an agent, a tool or an active runner. -/
theorem failure?_blueprint :
    w.blueprint.failure? = (w.nodesOfKind .agent ++
      (w.nodesOfKind .tool ++ w.activeRunners)).findSome? Node.rejection? := by
  have hagents : ((w.nodesOfKind .agent).mapM (Node.identify Node.asAgent)).failure? =
      (w.nodesOfKind .agent).findSome? Node.rejection? :=
    Except.failure?_mapM fun node hnode => (Node.failure?_identify _ node).trans
      (Node.failure?_asAgent (mem_nodesOfKind.mp hnode).2)
  have htools : ((w.nodesOfKind .tool).mapM (Node.identify Node.asTool)).failure? =
      (w.nodesOfKind .tool).findSome? Node.rejection? :=
    Except.failure?_mapM fun node hnode => (Node.failure?_identify _ node).trans
      (Node.failure?_asTool (mem_nodesOfKind.mp hnode).2)
  have hrunners : (w.activeRunners.mapM Node.asRunner).failure? =
      w.activeRunners.findSome? Node.rejection? :=
    Except.failure?_mapM fun node hnode =>
      Node.failure?_asRunner (mem_nodesOfKind.mp (mem_activeRunners.mp hnode).1).2
  rw [List.findSome?_append, List.findSome?_append, ← hagents, ← htools, ← hrunners]
  unfold blueprint
  rw [Except.failure?_bind]
  intro agents
  rw [Except.failure?_bind]
  intro tools
  cases w.activeRunners.mapM Node.asRunner <;> rfl

/-- Generation fails with the first rejection in the order of reading. -/
theorem failure?_generate (d : Defaults) :
    (w.generate d).failure? = w.readingOrder.findSome? Node.rejection? := by
  -- the agents are read twice, and so are those active runners that no agent feeds
  have hagents : (w.unfedRunners ++ w.nodesOfKind .agent ++ w.nodesOfKind .agent).findSome?
      Node.rejection? = (w.unfedRunners ++ w.nodesOfKind .agent).findSome? Node.rejection? := by
    rw [← List.findSome?_append_filter Node.rejection? (fun _ => false) fun node hnode _ =>
      List.mem_append_right _ hnode]
    simp
  have hrunners : ∀ node ∈ w.activeRunners, w.isFed node.id = false →
      node ∈ w.unfedRunners ++ w.nodesOfKind .agent ++ w.nodesOfKind .tool := fun node hnode hfed =>
    List.mem_append_left _ (List.mem_append_left _
      (mem_unfedRunners.mpr ⟨(mem_activeRunners.mp hnode).1, hfed⟩))
  calc (w.generate d).failure?
    _ = (w.unfedRunners ++ w.nodesOfKind .agent ++ (w.nodesOfKind .agent ++
          (w.nodesOfKind .tool ++ w.activeRunners))).findSome? Node.rejection? := by
        rw [List.findSome?_append, ← failure?_diagnose, ← failure?_blueprint, generate]
        apply Except.failure?_bind
        intro diagnostics
        cases w.blueprint <;> rfl
    _ = (w.unfedRunners ++ w.nodesOfKind .agent ++ w.nodesOfKind .tool ++
          w.activeRunners).findSome? Node.rejection? := by
        rw [← List.append_assoc, List.findSome?_append, hagents, ← List.findSome?_append,
          ← List.append_assoc]
    _ = w.readingOrder.findSome? Node.rejection? := by
        rw [readingOrder, fedRunners_eq_filter_activeRunners,
          List.findSome?_append_filter _ _ hrunners]

/-- Generation succeeds exactly on workflows whose nodes can all be read. -/
theorem exists_generate_eq_ok_iff {d : Defaults} :
    (∃ g, w.generate d = .ok g) ↔ w.Readable := by
  rw [← Except.failure?_eq_none_iff, failure?_generate, List.findSome?_eq_none_iff]
  simp only [mem_readingOrder, Node.rejection?_eq_none_iff, Readable]

/-- The rejection that generation ends with is that of the first unreadable node. -/
theorem generate_eq_error_iff {d : Defaults} {r : Rejection} :
    w.generate d = .error r ↔ ∃ before node after, w.readingOrder = before ++ node :: after ∧
      (∀ earlier ∈ before, earlier.Readable) ∧ node.attributes = .error r := by
  rw [← Except.failure?_eq_some_iff, failure?_generate, List.findSome?_eq_some_iff]
  simp only [Node.rejection?_eq_none_iff, Node.rejection?_eq_some_iff]
  constructor
  · rintro ⟨before, node, after, horder, hnode, hbefore⟩
    exact ⟨before, node, after, horder, hbefore, hnode⟩
  · rintro ⟨before, node, after, horder, hbefore, hnode⟩
    exact ⟨before, node, after, horder, hnode, hbefore⟩

end Workflow

/-! ## Sessions -/

/-- After any session that starts from a document, generation succeeds exactly if every node can be
read, and else fails with the rejection of the first node in the order of reading that cannot.
Diagnosing alone fails exactly for an agent or for a runner that no agent feeds. Neither fails if
the session replaces no stored attributes. -/
theorem Workflow.generate_session {document : Json} {draws : Draws} {start : Workflow}
    (hload : ofDocument document draws = .ok start) (changes : List Edit) (d : Defaults) :
    let w := start.session changes
    ((∃ g, w.generate d = .ok g) ↔ ∀ node ∈ w.nodes, node.Readable) ∧
    (∀ r, w.generate d = .error r ↔ ∃ before node after,
      w.readingOrder = before ++ node :: after ∧ (∀ earlier ∈ before, earlier.Readable) ∧
        node.attributes = .error r) ∧
    ((∃ r, w.diagnose = .error r) ↔ ∃ node ∈ w.nodes,
      (node ∈ w.unfedRunners ∨ node.kind = .agent) ∧ ¬node.Readable) ∧
    ((∀ change ∈ changes, change.keepsData) →
      (∃ diagnostics, w.diagnose = .ok diagnostics) ∧ ∃ g, w.generate d = .ok g) := by
  intro w
  refine ⟨exists_generate_eq_ok_iff, fun r => generate_eq_error_iff, ?_, ?_⟩
  · rw [Except.exists_eq_error_iff, exists_diagnose_eq_ok_iff]
    simp only [mem_unfedRunners_append_agents, not_forall, exists_prop, and_assoc]
  -- without replaced attributes all nodes are sound, so there is nothing to fail for
  · intro hkeeps
    have hreadable : w.Readable := (sound_session hload hkeeps).readable
    exact ⟨exists_diagnose_eq_ok_iff.mpr fun node hnode =>
      hreadable node (mem_unfedRunners_append_agents.mp hnode).1,
      exists_generate_eq_ok_iff.mpr hreadable⟩

/-- A runner and, behind it, the agent that feeds it. -/
def Workflow.fedRunner : Workflow where
  nodes := [⟨"r", .runner, ⟨.zero, .zero⟩, .obj []⟩, ⟨"a", .agent, ⟨.zero, .zero⟩, .obj []⟩]
  edges := [⟨"e", "a", "r"⟩]

/-- Where the input of a fed runner and the name of its agent are both replaced by numbers,
generation fails for the agent: the runner comes first on the canvas, but not in the order of
reading. -/
theorem Workflow.generate_session_fedRunner :
    ofDocument fedRunner.toDocument = .ok fedRunner ∧
      (fedRunner.session [.setData 0 (.obj [("input", .int 1)]),
        .setData (-1) (.obj [("name", .int 2)])]).generate Defaults.builtIn =
          .error ⟨.agent, [⟨[.key "name"], .notText⟩]⟩ := by
  have hload : ofDocument fedRunner.toDocument = .ok fedRunner := rfl
  exact ⟨hload, ((generate_session hload _ _).2.1 _).mpr ⟨[], _, _, rfl, by simp, rfl⟩⟩

end AgentCanvas
