import AgentCanvas.Proofs.Graph.Emptied
import AgentCanvas.Proofs.Program.ReadsAs
import AgentCanvas.Proofs.Program.Rendering

/-!
# Programs of emptied workflows

Where the built-in defaults stand for an empty text as for an absent one, it does not matter which
of them a node has. That is so for every text attribute but the name of an agent: an agent without
a name is a new agent, and one whose name is empty is an unnamed agent.

## Key results

- `Attributes.Emptied.agent_eq`, `Attributes.Emptied.tool_rendersAs`: emptied attributes are shown
  as before.
- `Attributes.Emptied.identifier_ne`: an agent that loses its name is told from one that has it.
- `Workflow.generate_emptyDocument`: the program is the same exactly if no agent's name is emptied.
-/

namespace AgentCanvas

namespace Attributes.Emptied

variable {keys : List String}

/-! ## Attributes -/

/-- Agents whose name is left alone keep their attributes. -/
theorem agent_eq {a o : Agent} (h : Emptied keys (.agent a) (.agent o)) (hname : "name" ∉ keys) :
    a = o := by
  cases h
  rw [if_neg hname]

theorem runner_eq {r o : Runner} (h : Emptied keys (.runner r) (.runner o)) : r = o := by
  cases h
  rfl

theorem declaredSchema_eq {a o : Agent} (h : Emptied keys (.agent a) (.agent o)) :
    a.declaredSchema = o.declaredSchema := by
  cases h
  rfl

/-- The variable of an agent that has no name is another one once the name is empty. -/
theorem identifier_ne {a o : Agent} (h : Emptied keys (.agent a) (.agent o))
    (hname : "name" ∈ keys) : a.identifier .builtIn ≠ o.identifier .builtIn := by
  cases h with
  | agent _ hdefault =>
    simp only [Agent.identifier, Agent.displayName, hdefault hname, if_pos hname]
    decide

/-- Tools are shown as before: their built-in names and types are those of absent ones. -/
theorem tool_rendersAs {t u : Tool} (h : Emptied keys (.tool t) (.tool u)) :
    t.RendersAs .builtIn .builtIn u := by
  cases h with
  | tool _ hname htype =>
    constructor
    case parameters => rfl
    case implementation => rfl
    case functionName =>
      by_cases hkey : "name" ∈ keys
      · simp only [Tool.functionName, hname hkey, if_pos hkey]
        decide
      · simp only [Tool.functionName, if_neg hkey]
    case returnType =>
      by_cases hkey : "returnType" ∈ keys ∨ "return_type" ∈ keys
      · simp only [htype hkey, if_pos hkey]
        decide
      · simp only [if_neg hkey]

end Attributes.Emptied

namespace Workflow

variable {w : Workflow} {sets : String → List String} {b c : Blueprint}

section

variable (hsound : w.Sound) (hlacks : ∀ node ∈ w.nodes, ∀ key ∈ sets node.id, node.Lacks key)
include hsound hlacks

theorem readable_emptied : (w.emptied sets).Readable := by
  intro node hnode
  obtain ⟨_, -, -, -, _, b, -, hb, -⟩ := (forall₂_emptied hsound hlacks).exists_of_mem_right hnode
  exact ⟨b, hb⟩

/-! ## Names that are left alone -/

theorem diagnosedAs_emptied
    (hnames : ∀ node ∈ w.nodes, node.kind = .agent → "name" ∉ sets node.id) :
    w.DiagnosedAs (w.emptied sets) := by
  refine ⟨?_, rfl⟩
  have hboth := (List.forall₂_and_left _ _).mpr ⟨hnames, forall₂_emptied hsound hlacks⟩
  refine hboth.imp fun node other hnode => ?_
  obtain ⟨hname, hid, hkind, x, y, hx, hy, hemptied⟩ := hnode
  refine ⟨hid, hkind, fun htool => ?_⟩
  -- diagnosing reads agents and runners only, and their attributes stay
  rw [hx, hy]
  cases x with
  | agent a =>
    cases y with
    | agent o => rw [hemptied.agent_eq (hname (Node.kind_of_attributes hx))]
    | _ => nomatch hemptied
  | runner r =>
    cases y with
    | runner o => rw [hemptied.runner_eq]
    | _ => nomatch hemptied
  | tool t => exact absurd (Node.kind_of_attributes hx) htool

variable (hb : w.blueprint = .ok b) (hc : (w.emptied sets).blueprint = .ok c)
include hb hc

/-- What stands in front of the agents is the same. -/
theorem sameFront_emptied : b.SameFront .builtIn .builtIn c := by
  obtain ⟨hagents, htools, -⟩ := forall₂_blueprint (S := fun id => Attributes.Emptied (sets id))
    (forall₂_emptied hsound hlacks) hb hc
  obtain ⟨-, -, -, hconnections⟩ := blueprint_eq_ok_iff.mp hb
  obtain ⟨-, -, -, hconnections'⟩ := blueprint_eq_ok_iff.mp hc
  refine ⟨?_, ?_, ?_, fun _ => rfl⟩
  · exact hagents.imp fun _ _ hagent => hagent.2.declaredSchema_eq
  · exact htools.imp fun _ _ htool => ⟨htool.1, htool.2.tool_rendersAs⟩
  · rw [hconnections, hconnections', emptied]

/-- Agents whose names are left alone are the same, and so is the whole program. -/
theorem rendersAs_emptied
    (hnames : ∀ node ∈ w.nodes, node.kind = .agent → "name" ∉ sets node.id) :
    b.RendersAs .builtIn .builtIn c := by
  obtain ⟨hagents, -, hrunners⟩ := forall₂_blueprint (S := fun id => Attributes.Emptied (sets id))
    (forall₂_emptied hsound hlacks) hb hc
  have hname : ∀ agent ∈ b.agents, "name" ∉ sets agent.id := by
    intro agent hagent
    obtain ⟨node, hnode, hid, -⟩ := (forall₂_agents hb).exists_of_mem_right hagent
    obtain ⟨hmem, hkind⟩ := mem_nodesOfKind.mp hnode
    exact hid ▸ hnames node hmem hkind
  have hsame : b.agents = c.agents := by
    rw [← List.forall₂_eq_eq_eq]
    refine ((List.forall₂_and_left _ _).mpr ⟨hname, hagents⟩).imp fun agent other hagent => ?_
    obtain ⟨hname, hid, hemptied⟩ := hagent
    obtain ⟨id, value⟩ := agent
    rw [show id = other.id from hid, show value = other.value from hemptied.agent_eq hname]
  have hrun : b.runners = c.runners := by
    rw [← List.forall₂_eq_eq_eq]
    exact hrunners.imp fun _ _ hrunner => hrunner.elim fun _ hemptied => hemptied.runner_eq
  refine ⟨sameFront_emptied hsound hlacks hb hc, ?_, ?_⟩
  · rw [← hsame]
    exact List.forall₂_same.mpr fun _ _ => ⟨rfl, rfl, rfl, rfl⟩
  · rw [Blueprint.entry, Blueprint.entry, hsame, hrun]

/-! ## Names that are emptied -/

/-- An agent whose name is emptied is stored in another variable, so the program is another one. -/
theorem code_ne_of_name {node : Node} (hnode : node ∈ w.nodes) (hkind : node.kind = .agent)
    (hname : "name" ∈ sets node.id) : b.code .builtIn ≠ c.code .builtIn := by
  intro hcode
  have hidentifiers := (sameFront_emptied hsound hlacks hb hc).identifiers_eq_of_code_eq hcode
  obtain ⟨hagents, -, -⟩ := forall₂_blueprint (S := fun id => Attributes.Emptied (sets id))
    (forall₂_emptied hsound hlacks) hb hc
  rw [Blueprint.identifiers, Blueprint.identifiers, ← List.forall₂_eq_eq_eq,
    List.forall₂_map_map_iff] at hidentifiers
  -- the agent that is read from the node has one variable before and another one after
  obtain ⟨agent, hagent, hid, -⟩ :=
    (forall₂_agents hb).exists_of_mem_left (mem_nodesOfKind.mpr ⟨hnode, hkind⟩)
  obtain ⟨other, -, ⟨-, hemptied⟩, hidentifier⟩ :=
    (hagents.and hidentifiers).exists_of_mem_left hagent
  exact hemptied.identifier_ne (hid ▸ hname) hidentifier

end

/-- With the built-in defaults there is a program before and after. Both are the same if no agent's
name is emptied, and any such name shows in the code. -/
theorem generate_emptied (hsound : w.Sound)
    (hlacks : ∀ node ∈ w.nodes, ∀ key ∈ sets node.id, node.Lacks key) :
    ∃ g g', w.generate .builtIn = .ok g ∧ (w.emptied sets).generate .builtIn = .ok g' ∧
      ((∀ node ∈ w.nodes, node.kind = .agent → "name" ∉ sets node.id) → g = g') ∧
      ∀ node ∈ w.nodes, node.kind = .agent → "name" ∈ sets node.id → g.code ≠ g'.code := by
  obtain ⟨g, hg⟩ := exists_generate_eq_ok_iff (d := .builtIn).mpr hsound.readable
  obtain ⟨g', hg'⟩ := exists_generate_eq_ok_iff (d := .builtIn).mpr (readable_emptied hsound hlacks)
  refine ⟨g, g', hg, hg', ?_⟩
  obtain ⟨diagnostics, b, hdiagnostics, hb, rfl⟩ := generate_eq_ok_iff.mp hg
  obtain ⟨diagnostics', c, hdiagnostics', hc, rfl⟩ := generate_eq_ok_iff.mp hg'
  constructor
  · intro hnames
    have hdiagnosed := (diagnosedAs_emptied hsound hlacks hnames).diagnose_eq
    cases hdiagnostics.symm.trans (hdiagnosed.trans hdiagnostics')
    rw [(rendersAs_emptied hsound hlacks hb hc hnames).code_eq]
  · exact fun node hnode hkind hname => code_ne_of_name hsound hlacks hb hc hnode hkind hname

/-- A document that holds a workflow still does so once the empty text is stored with its nodes
under any keys of text attributes that they lack. If the same ids are drawn and with the built-in
defaults, the program and its diagnostics are the same, unless an agent's name is among those
attributes: an agent without a name is a new agent, one with an empty name is an unnamed agent. -/
theorem generate_emptyDocument {document : Json} {draws : Draws} {w : Workflow}
    {sets : String → List String} (hload : ofDocument document draws = .ok w)
    (hlacks : ∀ node ∈ w.nodes, ∀ key ∈ sets node.id, node.Lacks key) :
    ∃ v, ofDocument (emptyDocument sets document) draws = .ok v ∧
      ∃ g g', w.generate .builtIn = .ok g ∧ v.generate .builtIn = .ok g' ∧
        ((∀ node ∈ w.nodes, node.kind = .agent → "name" ∉ sets node.id) → g = g') ∧
        ∀ node ∈ w.nodes, node.kind = .agent → "name" ∈ sets node.id → g.code ≠ g'.code := by
  have hemptied : ofDocument (emptyDocument sets document) draws = .ok (w.emptied sets) :=
    ofDocument_emptyDocument hload hlacks
  obtain ⟨g, g', hg, hg', hsame, hcode⟩ := generate_emptied (sound_of_ofDocument hload) hlacks
  exact ⟨w.emptied sets, hemptied, g, g', hg, hg', hsame, hcode⟩

/-- A named agent, a runner with nothing stored, and a tool with an empty object. -/
def sparse : Json :=
  .obj [("nodes", .arr [
    .obj [("id", .str "a"), ("type", .str "agent"), ("data", .obj [("name", .str "Ann")])],
    .obj [("id", .str "r"), ("type", .str "runner")],
    .obj [("id", .str "t"), ("type", .str "functionTool"), ("data", .obj [])]])]

/-- The keys under which the empty text is stored with them. -/
def sparseKeys (id : String) : List String :=
  if id = "a" then ["description", "system_message"]
  else if id = "r" then ["input"]
  else ["name", "return_type", "implementation"]

/-- All text attributes but the name of the agent are absent, and may as well be empty. -/
theorem generate_emptyDocument_sparse : ∃ w v, ofDocument sparse = .ok w ∧
    (∀ node ∈ w.nodes, ∀ key ∈ sparseKeys node.id, node.Lacks key) ∧
    ofDocument (emptyDocument sparseKeys sparse) = .ok v ∧
    ∃ g, w.generate .builtIn = .ok g ∧ v.generate .builtIn = .ok g := by
  obtain ⟨w, hw⟩ : ∃ w, ofDocument sparse = .ok w := ⟨_, rfl⟩
  have hlacks : ∀ node ∈ w.nodes, ∀ key ∈ sparseKeys node.id, node.Lacks key := by
    have hstored {node : Node} {stored : Members} (hdata : node.data = .obj stored)
        (h : ∀ key ∈ sparseKeys node.id, ∃ keys ∈ node.kind.textAttributes, key ∈ keys ∧
          ∀ other ∈ keys, stored.get? other = none) :
        ∀ key ∈ sparseKeys node.id, node.Lacks key := fun key hkey => ⟨stored, hdata, h key hkey⟩
    cases hw
    intro node hnode
    simp only [List.mem_cons, List.not_mem_nil, or_false] at hnode
    rcases hnode with rfl | rfl | rfl <;> exact hstored rfl (by decide)
  have hnames : ∀ node ∈ w.nodes, node.kind = .agent → "name" ∉ sparseKeys node.id := by
    cases hw
    decide
  obtain ⟨v, hv, g, g', hg, hg', hsame, -⟩ := generate_emptyDocument hw hlacks
  exact ⟨w, v, hw, hlacks, hv, g, hg, hsame hnames ▸ hg'⟩

/-- The document of a single agent with the given members. -/
def loneAgent (stored : Members) : Json :=
  .obj [("nodes", .arr [
    .obj [("id", .str "a"), ("type", .str "agent"), ("data", .obj stored)]])]

/-- The empty text is stored as the name of every node. -/
def nameOnly (_ : String) : List String :=
  ["name"]

/-- An agent without a name has another program than one with an empty name. -/
theorem generate_emptyDocument_loneAgent : ∃ w v, ofDocument (loneAgent []) = .ok w ∧
    (∀ node ∈ w.nodes, ∀ key ∈ nameOnly node.id, node.Lacks key) ∧
    emptyDocument nameOnly (loneAgent []) = loneAgent [("name", .str "")] ∧
    ofDocument (loneAgent [("name", .str "")]) = .ok v ∧
    ∃ g g', w.generate .builtIn = .ok g ∧ v.generate .builtIn = .ok g' ∧ g.code ≠ g'.code := by
  obtain ⟨w, hw⟩ : ∃ w, ofDocument (loneAgent []) = .ok w := ⟨_, rfl⟩
  have hlacks : ∀ node ∈ w.nodes, ∀ key ∈ nameOnly node.id, node.Lacks key := by
    cases hw
    simp only [List.forall_mem_cons, nameOnly]
    exact ⟨⟨⟨[], rfl, by decide⟩, List.forall_mem_nil _⟩, List.forall_mem_nil _⟩
  obtain ⟨g, g', hg, hg', -, hcode⟩ := generate_emptied (sound_of_ofDocument hw) hlacks
  obtain ⟨node, hnode, hkind⟩ : ∃ node ∈ w.nodes, node.kind = .agent := by
    cases hw
    exact ⟨_, List.mem_cons_self, rfl⟩
  exact ⟨w, w.emptied nameOnly, hw, hlacks, rfl, ofDocument_emptyDocument hw hlacks, g, g', hg, hg',
    hcode node hnode hkind List.mem_cons_self⟩

end Workflow

end AgentCanvas
