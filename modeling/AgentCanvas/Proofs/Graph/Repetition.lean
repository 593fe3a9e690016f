import AgentCanvas.Proofs.Graph.Admission
import AgentCanvas.Proofs.Graph.Order
import Mathlib.Data.List.Induction

/-!
# Names that several agents have

Diagnosing reports a name that several agents have when it meets it the second time, and never
again. So the names reported are those that two agents or more have, each once, and they come in the
order in which the nodes stand that have them second. Agents without a name are passed over.

## Key definitions

- `Node.agentName?`, `Workflow.namesByPlace`: which name an agent has, and where it stands.
- `repeatedAt?`, `Workflow.RepeatsAt`: the place at which a name occurs the second time.

## Key results

- `repeatedNames_concat`: what one name more adds to the names that are repeated.
- `repeatedNames_eq_filterMap`: repeated names, place by place.
- `Diagnostic.message_eq_iff`: no other diagnostic is worded like one on a repeated name.
- `Workflow.diagnose_repetitions`: the diagnostics on repeated names.
-/

namespace AgentCanvas

/-! ## Repeated names -/

/-- One name more is found to be repeated if it has occurred before and has not been found yet. -/
private theorem repeatedNames_append_singleton (seen found names : List String) (name : String) :
    repeatedNames seen found (names ++ [name]) = repeatedNames seen found names ++
      if (name ∈ seen ∨ name ∈ names) ∧ name ∉ found ∧ name ∉ repeatedNames seen found names
      then [name] else [] := by
  induction names generalizing seen found with
  | nil => simp [repeatedNames]
  | cons first rest ih =>
    rw [List.cons_append, repeatedNames, repeatedNames]
    split
    -- the first name is found here, so it is not found again
    next =>
      rw [ih, List.cons_append]
      congr 3
      by_cases hname : name = first <;> simp [hname]
    -- the first name is seen from here on
    next =>
      rw [ih]
      congr 2
      simp [or_assoc, or_left_comm]

/-- One name more is found to be repeated if it has occurred exactly once. -/
theorem repeatedNames_concat (names : List String) (name : String) :
    repeatedNames [] [] (names ++ [name]) =
      repeatedNames [] [] names ++ if names.count name = 1 then [name] else [] := by
  rw [repeatedNames_append_singleton]
  congr 2
  have hcount : 1 ≤ names.count name ↔ name ∈ names := List.one_le_count_iff
  simp only [mem_repeatedNames_iff, List.not_mem_nil, false_or, false_and, not_false_eq_true,
    true_and, ← hcount, eq_iff_iff]
  omega

/-! ## Places -/

/-- The names that are given in a list of places, without the empty ones. -/
def givenNames (places : List (Option String)) : List String :=
  (places.filterMap id).filter (· ≠ "")

/-- The name given at a place, if it is not empty and exactly one place before gives it too. -/
def repeatedAt? (places : List (Option String)) (place : Nat) : Option String :=
  match places[place]? with
  | some (some name) =>
    if name ≠ "" ∧ (places.take place).count (some name) = 1 then some name else none
  | _ => none

theorem repeatedAt?_eq_some_iff {places : List (Option String)} {place : Nat} {name : String} :
    repeatedAt? places place = some name ↔
      name ≠ "" ∧ places[place]? = some (some name) ∧
        (places.take place).count (some name) = 1 := by
  unfold repeatedAt?
  split
  next other hother =>
    by_cases hname : other = name
    · simp [hother, hname]
    · simp [hother, hname]
  next hnone =>
    simpa using fun _ hname => absurd hname (hnone name)

/-- A place more gives its name, unless this is empty. -/
theorem givenNames_concat (places : List (Option String)) (last : Option String) :
    givenNames (places ++ [last]) = givenNames places ++ (last.filter (· ≠ "")).toList := by
  cases last with
  | none => simp [givenNames]
  | some name => by_cases hname : name = "" <;> simp [givenNames, Option.filter, hname]

/-- A name that is not empty is given as often as it stands at a place. -/
theorem count_givenNames (places : List (Option String)) {name : String} (h : name ≠ "") :
    (givenNames places).count name = places.count (some name) := by
  induction places using List.reverseRecOn with
  | nil => rfl
  | append_singleton places last ih =>
    rw [givenNames_concat, List.count_append, List.count_append, ih]
    cases last with
    | none => simp
    | some other =>
      by_cases hother : other = name
      · simp [Option.filter, hother, h]
      · by_cases hempty : other = "" <;> simp [Option.filter, hother, hempty, Ne.symm h]

/-- Repeated names are found at the places where they stand the second time, one place after
another. -/
theorem repeatedNames_eq_filterMap (places : List (Option String)) :
    repeatedNames [] [] (givenNames places) =
      (List.range places.length).filterMap (repeatedAt? places) := by
  -- by induction from behind, since what is found at a place depends on the places before it
  induction places using List.reverseRecOn with
  | nil => rfl
  | append_singleton places last ih =>
    have hbefore : (List.range places.length).filterMap (repeatedAt? (places ++ [last])) =
        (List.range places.length).filterMap (repeatedAt? places) := by
      refine List.filterMap_congr fun place hplace => ?_
      have hlt : place < places.length := List.mem_range.mp hplace
      rw [repeatedAt?, repeatedAt?, List.getElem?_append_left hlt,
        List.take_append_of_le_length (Nat.le_of_lt hlt)]
    rw [List.length_append, List.length_singleton, List.range_succ, List.filterMap_append, hbefore,
      ← ih, givenNames_concat]
    cases last with
    | none => simp [repeatedAt?]
    | some name =>
      by_cases hname : name = ""
      · simp [repeatedAt?, Option.filter, hname]
      -- the count of the name tells both whether it is found and whether it is found here
      · have hgiven := count_givenNames places hname
        by_cases hcount : places.count (some name) = 1 <;>
          simp [repeatedAt?, Option.filter, repeatedNames_concat, hname, hgiven, hcount]

/-- The repeated names are those that stand at two places or more, the empty one apart. -/
theorem mem_repeatedNames_givenNames_iff {places : List (Option String)} {name : String} :
    name ∈ repeatedNames [] [] (givenNames places) ↔
      name ≠ "" ∧ 2 ≤ places.count (some name) := by
  have hrepeated : name ∈ repeatedNames [] [] (givenNames places) ↔
      2 ≤ (givenNames places).count name := by simp [mem_repeatedNames_iff]
  rw [hrepeated]
  by_cases hname : name = ""
  · have hempty : name ∉ givenNames places := by simp [givenNames, hname]
    simp [hname ▸ List.count_eq_zero_of_not_mem hempty, hname]
  · simp [count_givenNames places hname, hname]

/-- Repeated names come in the order of the places where they stand the second time. -/
theorem pairwise_repeatedNames (places : List (Option String)) :
    (repeatedNames [] [] (givenNames places)).Pairwise fun name later =>
      ∃ i j, repeatedAt? places i = some name ∧ repeatedAt? places j = some later ∧ i < j := by
  rw [repeatedNames_eq_filterMap]
  exact List.pairwise_lt_range.filterMap _ fun i j hij name hname later hlater =>
    ⟨i, j, hname, hlater, hij⟩

/-! ## Wording -/

/-- No other diagnostic is worded like one on a repeated name. -/
theorem Diagnostic.message_eq_iff {x : Diagnostic} {name : String} :
    x.message = "duplicate Agent name: " ++ name ↔ x = .repeatedAgentName name := by
  constructor
  · intro h
    have hinitial : x.initial = initial (.repeatedAgentName name) := by
      rw [← Option.some.injEq, ← head?_message, ← head?_message, h]
      rfl
    cases x with
    | repeatedAgentName other =>
      exact congrArg repeatedAgentName ((String.append_right_inj _).mp h)
    | noNodes | noAgent | noRunner | unconnectedRunner _ | unknownNode _ _
    | invalidConnection _ _ _ => simp [initial] at hinitial
  · rintro rfl
    rfl

/-! ## Agents -/

/-- The name of a node that is an agent, if it can be read. -/
def Node.agentName? (node : Node) : Option String :=
  if node.kind = .agent then node.asAgent.toOption.map (·.name) else none

namespace Workflow

variable {w : Workflow}

/-- The names of the agents at the places of the nodes; nodes that are no agents have none. -/
def namesByPlace (w : Workflow) : List (Option String) :=
  w.nodes.map Node.agentName?

/-- The node at a place is an agent with a name, and exactly one agent before it has the same. -/
def RepeatsAt (w : Workflow) (place : Nat) (name : String) : Prop :=
  w.namesByPlace[place]? = some (some name) ∧ (w.namesByPlace.take place).count (some name) = 1

/-- The names of the agents are those that are given at the places of the nodes. -/
theorem eq_givenNames_of_agentNames {names : List String} (h : w.agentNames = .ok names) :
    names = givenNames w.namesByPlace := by
  obtain ⟨agents, hagents, hnames⟩ := Except.bind_eq_ok_iff.mp h
  cases hnames
  have hread : (w.nodesOfKind .agent).map Node.asAgent = agents.map .ok :=
    (Except.mapM_eq_ok_iff fun _ _ _ => Iff.rfl).mp hagents
  have hgiven : w.namesByPlace.filterMap id = agents.map (·.name) := by
    calc w.namesByPlace.filterMap id
      _ = w.nodes.filterMap Node.agentName? := by
        rw [namesByPlace, List.filterMap_map, Function.id_comp]
      _ = (w.nodesOfKind .agent).filterMap fun node => node.asAgent.toOption.map (·.name) := by
        rw [nodesOfKind, List.filterMap_filter]
        simp only [decide_eq_true_eq]
        rfl
      _ = ((w.nodesOfKind .agent).map Node.asAgent).filterMap fun read =>
          read.toOption.map (·.name) := by rw [List.filterMap_map]; rfl
      _ = agents.map (·.name) := by
        rw [hread, List.filterMap_map, ← List.filterMap_eq_map]
        rfl
  rw [givenNames, hgiven]

theorem eq_of_mem_presenceDiagnostics {x : Diagnostic} (h : x ∈ w.presenceDiagnostics) :
    x = .noAgent ∨ x = .noRunner := by
  simp only [presenceDiagnostics, List.mem_append, List.mem_ite_nil_right, List.mem_singleton] at h
  exact h.imp And.right And.right

/-- The diagnostics of a workflow with nodes that diagnosing can read: first those on kinds of nodes
and on runners, then those on repeated names, then those on edges. The names are those that two
agents or more have, the empty one apart. Each is reported once, in the order of the nodes that have
them second, and in words that no other diagnostic has. -/
theorem diagnose_repetitions {w : Workflow} (hnodes : w.nodes ≠ [])
    (hread : ∀ node ∈ w.unfedRunners ++ w.nodesOfKind .agent, node.Readable) :
    ∃ (front : List Diagnostic) (names : List String) (behind : List Diagnostic),
      w.diagnose = .ok (front ++ names.map .repeatedAgentName ++ behind) ∧
      (∀ x ∈ front, x = .noAgent ∨ x = .noRunner ∨ ∃ label, x = .unconnectedRunner label) ∧
      (∀ x ∈ behind, x.isOnEdge) ∧
      (∀ name, name ∈ names ↔ name ≠ "" ∧ 2 ≤ w.namesByPlace.count (some name)) ∧
      names.Nodup ∧
      (names.Pairwise fun name later =>
        ∃ i j, w.RepeatsAt i name ∧ w.RepeatsAt j later ∧ i < j) ∧
      (∀ name, (Diagnostic.repeatedAgentName name).message = "duplicate Agent name: " ++ name) ∧
      ∀ x ∈ front ++ behind, ∀ name, x.message ≠ "duplicate Agent name: " ++ name := by
  obtain ⟨diagnostics, hdiagnostics⟩ := exists_diagnose_eq_ok_iff.mpr hread
  obtain ⟨runners, names, hrunners, hnames, rfl⟩ := (diagnose_eq_ok_iff hnodes).mp hdiagnostics
  obtain rfl := eq_givenNames_of_agentNames hnames
  have hfront : ∀ x ∈ w.presenceDiagnostics ++ runners,
      x = .noAgent ∨ x = .noRunner ∨ ∃ label, x = .unconnectedRunner label := by
    intro x hx
    rcases List.mem_append.mp hx with hx | hx
    · exact (eq_of_mem_presenceDiagnostics hx).imp_right .inl
    · exact .inr (.inr (exists_eq_unconnectedRunner hrunners x hx))
  have hbehind : ∀ x ∈ w.edges.flatMap w.edgeDiagnostics, x.isOnEdge := by
    intro x hx
    obtain ⟨edge, -, hedge⟩ := List.mem_flatMap.mp hx
    exact isOnEdge_of_mem_edgeDiagnostics hedge
  refine ⟨_, _, _, hdiagnostics, hfront, hbehind, fun name => mem_repeatedNames_givenNames_iff,
    nodup_repeatedNames, ?_, fun name => rfl, fun x hx name hmessage => ?_⟩
  · refine (pairwise_repeatedNames w.namesByPlace).imp fun ⟨i, j, hi, hj, hlt⟩ => ?_
    exact ⟨i, j, (repeatedAt?_eq_some_iff.mp hi).2, (repeatedAt?_eq_some_iff.mp hj).2, hlt⟩
  -- what is worded like a diagnostic on a name is one, and stands neither in front nor behind
  · obtain rfl := Diagnostic.message_eq_iff.mp hmessage
    rcases List.mem_append.mp hx with hx | hx
    · simpa using hfront _ hx
    · exact absurd (hbehind _ hx) Bool.false_ne_true

/-- Two names that agents have in turn, a third one in lower case, two agents without a name, a
runner that no agent feeds, a tool whose attributes are unreadable and an edge to nowhere. -/
def choir : Workflow where
  nodes := [⟨"a", .agent, ⟨.zero, .zero⟩, .obj [("name", .str "Ann")]⟩,
    ⟨"b", .agent, ⟨.zero, .zero⟩, .obj [("name", .str "Bob")]⟩,
    ⟨"r", .runner, ⟨.zero, .zero⟩, .obj [("name", .str "Bob")]⟩,
    ⟨"c", .agent, ⟨.zero, .zero⟩, .obj [("name", .str "")]⟩,
    ⟨"d", .agent, ⟨.zero, .zero⟩, .obj [("name", .str "Bob")]⟩,
    ⟨"e", .agent, ⟨.zero, .zero⟩, .obj [("name", .str "Ann")]⟩,
    ⟨"f", .agent, ⟨.zero, .zero⟩, .obj [("name", .str "")]⟩,
    ⟨"g", .agent, ⟨.zero, .zero⟩, .obj [("name", .str "ann")]⟩,
    ⟨"t", .tool, ⟨.zero, .zero⟩, .null⟩,
    ⟨"h", .agent, ⟨.zero, .zero⟩, .obj [("name", .str "Ann")]⟩]
  edges := [⟨"1", "a", "x"⟩]

/-- In the choir the name that comes second is repeated first. -/
theorem diagnose_repetitions_choir : choir.nodes ≠ [] ∧
    (∀ node ∈ choir.unfedRunners ++ choir.nodesOfKind .agent, node.Readable) ∧
    choir.RepeatsAt 4 "Bob" ∧ choir.RepeatsAt 5 "Ann" ∧
    ∃ (front : List Diagnostic) (names : List String) (behind : List Diagnostic),
      front ++ names.map .repeatedAgentName ++ behind = [.unconnectedRunner "r",
        .repeatedAgentName "Bob", .repeatedAgentName "Ann", .unknownNode "1" "x"] ∧
      "Bob" ∈ names ∧ "Ann" ∈ names ∧ "ann" ∉ names ∧ "" ∉ names ∧ names.Nodup := by
  have hnodes : choir.nodes ≠ [] := List.cons_ne_nil _ _
  have hread : ∀ node ∈ choir.unfedRunners ++ choir.nodesOfKind .agent, node.Readable := by
    have hnode : ∀ node ∈ choir.nodes, node.kind ≠ .tool → node.Readable := by
      simp only [choir, List.forall_mem_cons]
      exact ⟨fun _ => ⟨_, rfl⟩, fun _ => ⟨_, rfl⟩, fun _ => ⟨_, rfl⟩, fun _ => ⟨_, rfl⟩,
        fun _ => ⟨_, rfl⟩, fun _ => ⟨_, rfl⟩, fun _ => ⟨_, rfl⟩, fun _ => ⟨_, rfl⟩,
        fun h => absurd rfl h, fun _ => ⟨_, rfl⟩, List.forall_mem_nil _⟩
    intro node h
    obtain ⟨hmem, hrunner | hagent⟩ := mem_unfedRunners_append_agents.mp h
    · refine hnode node hmem ?_
      simp [(mem_nodesOfKind.mp (mem_unfedRunners.mp hrunner).1).2]
    · refine hnode node hmem ?_
      simp [hagent]
  have hplaces : choir.namesByPlace = [some "Ann", some "Bob", none, some "", some "Bob",
      some "Ann", some "", some "ann", none, some "Ann"] := rfl
  obtain ⟨front, names, behind, hdiagnose, -, -, hmem, hnodup, -⟩ :=
    diagnose_repetitions hnodes hread
  refine ⟨hnodes, hread, ?_, ?_, front, names, behind, (Except.ok.inj hdiagnose).symm, ?_, ?_,
    ?_, ?_, hnodup⟩ <;> simp [RepeatsAt, hmem, hplaces]

end Workflow

end AgentCanvas
