import AgentCanvas.Proofs.Graph.Admission
import AgentCanvas.Proofs.Program.Closed
import AgentCanvas.Proofs.Text.Binding
import AgentCanvas.Proofs.Text.Literal

/-!
# Shapes of entry points

A program ends with its entry point. Unless it only says what is missing, the entry point runs the
task of the first runner, and it does so either synchronously or asynchronously: the head of its
function, the line that gives the task, the closing of the model client and the call at the end are
written one by one, but always for the same mode. Of the runners behind the first, only their modes
count, and these only for a single agent.

## Key definitions

- `EntryPoint.RunsAs`: lines that run a task in one mode throughout.
- `Workflow.Staffed`: the attributes of the agents and runners of a workflow.
- `absenceMessages`: what diagnosing says about kinds of nodes that are missing.

## Key results

- `EntryPoint.runsAs_single`, `EntryPoint.runsAs_team`: entry points run their task in one mode.
- `entryPoint_cons_eq_of_modes`: what an entry point does not depend on.
- `Workflow.exists_absence_iff`: when diagnosing says that a kind is missing.
- `Workflow.generate_entryPoint`: the shape of the entry point of a program.
-/

namespace AgentCanvas

open Text (quote IsNameText)

namespace EntryPoint

/-! ## Lines of an entry point -/

/-- The line that closes the model client. -/
def closeLine : ExecutionMode → String
  | .sync => "        model_client.close()"
  | .async => "        await model_client.close()"

/-- The line that calls the function. -/
def callLine : ExecutionMode → String
  | .sync => "    main()"
  | .async => "    asyncio.run(main())"

/-- A line gives a task to a single agent or to a team. Teams are run asynchronously only. -/
def IsRunLine (task : String) : ExecutionMode → String → Prop
  | .sync, line => ∃ agent, IsNameText agent ∧ line = runLine agent task .sync
  | .async, line => (∃ agent, IsNameText agent ∧ line = runLine agent task .async) ∨
      line = streamLine task

/-- The lines of an entry point run a task in one mode: the head of the function, the closing of the
client and the call of the function are written for this mode and not for the other, and a task is
given in this mode only and is this one only. -/
structure RunsAs (mode : ExecutionMode) (task : String) (lines : List String) : Prop where
  frame : ∀ part ∈ [mainLine, closeLine, callLine], ∀ other, part other ∈ lines ↔ other = mode
  run : ∀ text other, (∃ line ∈ lines, IsRunLine text other line) ↔ text = task ∧ other = mode

variable {agent other task text token : String} {agents : List String} {mode mode' : ExecutionMode}

/-- Lines run one task in one mode only. -/
theorem RunsAs.unique {lines : List String} (h : RunsAs mode task lines)
    (h' : RunsAs mode' text lines) : mode = mode' ∧ task = text :=
  ((h'.run task mode).mp ((h.run task mode).mpr ⟨rfl, rfl⟩)).symm

/-! ## Lines that give a task -/

/-- A call with a quoted argument tells the argument. -/
theorem call_inj {method : String} (hagent : IsNameText agent) (hother : IsNameText other)
    (h : agent.toList ++ '.' :: (method ++ (quote task ++ ")")).toList =
      other.toList ++ '.' :: (method ++ (quote text ++ ")")).toList) : task = text := by
  obtain ⟨-, htail⟩ := Text.isNameText_append_inj hagent hother (by decide) (by decide) h
  have hcall := String.toList_inj.mp (List.cons.inj htail).2
  rw [String.append_right_inj] at hcall
  exact (Text.quote_append_inj hcall).1

/-- A line that gives a task to a single agent tells the task and the mode. -/
theorem runLine_inj (hagent : IsNameText agent) (hother : IsNameText other)
    (h : runLine agent task mode = runLine other text mode') : task = text ∧ mode = mode' := by
  have hawait : IsNameText "await" :=
    List.all_eq_true.mp (show "await".toList.all Text.isNameChar by decide)
  -- behind the equals sign stands the name of an agent or the word that waits for it
  have hsync (agent task : String) : (runLine agent task .sync).toList =
      "        result = ".toList ++
        (agent.toList ++ '.' :: ("run_sync(task=" ++ (quote task ++ ")")).toList) := by
    simp [runLine]
  have hasync (agent task : String) : (runLine agent task .async).toList =
      "        result = ".toList ++ ("await".toList ++ ' ' ::
        (agent.toList ++ '.' :: ("run(task=" ++ (quote task ++ ")")).toList)) := by
    simp [runLine]
  rw [← String.toList_inj] at h
  cases mode with
  | sync =>
    cases mode' with
    | sync =>
      rw [hsync, hsync] at h
      exact ⟨call_inj hagent hother (List.append_cancel_left h), rfl⟩
    | async =>
      rw [hsync, hasync] at h
      cases (Text.isNameText_append_inj hagent hawait (by decide) (by decide)
        (List.append_cancel_left h)).2
  | async =>
    cases mode' with
    | sync =>
      rw [hsync, hasync] at h
      cases (Text.isNameText_append_inj hawait hother (by decide) (by decide)
        (List.append_cancel_left h)).2
    | async =>
      rw [hasync, hasync] at h
      have htail := List.append_cancel_left (List.append_cancel_left h)
      exact ⟨call_inj hagent hother (List.cons.inj htail).2, rfl⟩

theorem streamLine_inj (h : streamLine task = streamLine text) : task = text := by
  simp only [streamLine, String.append_assoc, String.append_right_inj] at h
  exact (Text.quote_append_inj h).1

/-- A team is not run as a single agent is. -/
theorem streamLine_ne_runLine : streamLine text ≠ runLine agent task mode := by
  cases mode <;> simp [streamLine, runLine, ← String.toList_inj]

theorem isRunLine_runLine_iff (hagent : IsNameText agent) :
    IsRunLine text mode' (runLine agent task mode) ↔ text = task ∧ mode' = mode := by
  constructor
  · intro h
    cases mode' with
    | sync =>
      obtain ⟨other, hother, hline⟩ := h
      exact (runLine_inj hagent hother hline).imp Eq.symm Eq.symm
    | async =>
      rcases h with ⟨other, hother, hline⟩ | hline
      · exact (runLine_inj hagent hother hline).imp Eq.symm Eq.symm
      · exact absurd hline.symm streamLine_ne_runLine
  · rintro ⟨rfl, rfl⟩
    cases mode' with
    | sync => exact ⟨agent, hagent, rfl⟩
    | async => exact .inl ⟨agent, hagent, rfl⟩

theorem isRunLine_streamLine_iff :
    IsRunLine text mode (streamLine task) ↔ text = task ∧ mode = .async := by
  constructor
  · intro h
    cases mode with
    | sync =>
      obtain ⟨agent, -, hline⟩ := h
      exact absurd hline streamLine_ne_runLine
    | async =>
      rcases h with ⟨agent, -, hline⟩ | hline
      · exact absurd hline streamLine_ne_runLine
      · exact ⟨(streamLine_inj hline).symm, rfl⟩
  · rintro ⟨rfl, rfl⟩
    exact .inr rfl

/-! ## Filled lines and their frame -/

/-- How the lines begin that hold the names of agents or a quoted text. -/
def filledFronts : List String :=
  ["        result = ", "        await Console(", "    termination = ", "        ["]

/-- A line holds the names of agents or a quoted text. -/
def IsFilled (line : String) : Prop :=
  ∃ front ∈ filledFronts, front.toList <+: line.toList

instance (line : String) : Decidable (IsFilled line) :=
  inferInstanceAs (Decidable (∃ front ∈ filledFronts, front.toList <+: line.toList))

theorem isFilled_runLine : IsFilled (runLine agent task mode) := by
  cases mode <;> simp [IsFilled, filledFronts, runLine]

theorem isFilled_streamLine : IsFilled (streamLine task) := by
  simp [IsFilled, filledFronts, streamLine]

theorem isFilled_tokenLine : IsFilled (tokenLine token) := by
  simp [IsFilled, filledFronts, tokenLine]

theorem isFilled_teamLine : IsFilled (teamLine agents) := by
  simp [IsFilled, filledFronts, teamLine]

theorem IsRunLine.isFilled {line : String} (h : IsRunLine text mode line) : IsFilled line := by
  cases mode with
  | sync =>
    obtain ⟨agent, -, rfl⟩ := h
    exact isFilled_runLine
  | async =>
    rcases h with ⟨agent, -, rfl⟩ | rfl
    · exact isFilled_runLine
    · exact isFilled_streamLine

theorem not_isRunLine_tokenLine : ¬IsRunLine text mode (tokenLine token) := by
  cases mode <;> simp [IsRunLine, runLine, streamLine, tokenLine, ← String.toList_inj]

theorem not_isRunLine_teamLine : ¬IsRunLine text mode (teamLine agents) := by
  cases mode <;> simp [IsRunLine, runLine, streamLine, teamLine, ← String.toList_inj]

/-- The lines that are the same for all single agents run in one mode. -/
def singleFrame (mode : ExecutionMode) : List String :=
  [mainLine mode, "    model_client = get_model_client()", "    try:", "        print(result)"] ++
    closingLines mode

/-- The lines that are the same for all teams. -/
def teamFrame : List String :=
  [mainLine .async, "    model_client = get_model_client()", "",
    "    # Stop once any agent mentions the termination token", "",
    "    # Agents take turns in node order", "    team = RoundRobinGroupChat(",
    "        termination_condition=termination", "    )", "", "    try:"] ++ closingLines .async

theorem mem_lines_single_iff {line : String} : line ∈ (single agent task mode).lines ↔
    line = runLine agent task mode ∨ line ∈ singleFrame mode := by
  simp only [lines, singleFrame, List.mem_append, List.mem_cons, List.not_mem_nil, or_false]
  grind

theorem mem_lines_team_iff {line : String} : line ∈ (team agents task token).lines ↔
    line ∈ [tokenLine token, teamLine agents, streamLine task] ∨ line ∈ teamFrame := by
  simp only [lines, teamFrame, List.mem_append, List.mem_cons, List.not_mem_nil, or_false]
  grind

theorem not_isFilled_of_mem_singleFrame : ∀ line ∈ singleFrame mode, ¬IsFilled line := by
  cases mode <;> decide +kernel

theorem not_isFilled_of_mem_teamFrame : ∀ line ∈ teamFrame, ¬IsFilled line := by
  decide +kernel

/-- The lines that are written for a mode hold neither names nor texts. -/
theorem not_isFilled_frame : ∀ part ∈ [mainLine, closeLine, callLine], ¬IsFilled (part mode) := by
  cases mode <;> decide

theorem frame_mem_singleFrame_iff :
    ∀ part ∈ [mainLine, closeLine, callLine], part mode' ∈ singleFrame mode ↔ mode' = mode := by
  cases mode <;> cases mode' <;> decide

theorem frame_mem_teamFrame_iff :
    ∀ part ∈ [mainLine, closeLine, callLine], part mode ∈ teamFrame ↔ mode = .async := by
  cases mode <;> decide

/-- A single agent is run in one mode. -/
theorem runsAs_single (hagent : IsNameText agent) :
    RunsAs mode task (single agent task mode).lines where
  frame part hpart other := by
    have hrun : part other ≠ runLine agent task mode := fun heq =>
      not_isFilled_frame part hpart (heq ▸ isFilled_runLine)
    rw [mem_lines_single_iff, or_iff_right hrun, frame_mem_singleFrame_iff part hpart]
  run text other := by
    constructor
    · rintro ⟨line, hline, hrun⟩
      rcases mem_lines_single_iff.mp hline with rfl | hframe
      · exact (isRunLine_runLine_iff hagent).mp hrun
      · exact absurd hrun.isFilled (not_isFilled_of_mem_singleFrame line hframe)
    · intro h
      exact ⟨_, mem_lines_single_iff.mpr (.inl rfl), (isRunLine_runLine_iff hagent).mpr h⟩

/-- A team is run asynchronously. -/
theorem runsAs_team : RunsAs .async task (team agents task token).lines where
  frame part hpart other := by
    have hpart' : ¬IsFilled (part other) := not_isFilled_frame part hpart
    have hfilled : part other ∉ [tokenLine token, teamLine agents, streamLine task] := by
      intro hmem
      refine hpart' ?_
      simp only [List.mem_cons, List.not_mem_nil, or_false] at hmem
      rcases hmem with heq | heq | heq
      · exact heq ▸ isFilled_tokenLine
      · exact heq ▸ isFilled_teamLine
      · exact heq ▸ isFilled_streamLine
    rw [mem_lines_team_iff, or_iff_right hfilled, frame_mem_teamFrame_iff part hpart]
  run text other := by
    constructor
    · rintro ⟨line, hline, hrun⟩
      rcases mem_lines_team_iff.mp hline with hfilled | hframe
      · simp only [List.mem_cons, List.not_mem_nil, or_false] at hfilled
        rcases hfilled with rfl | rfl | rfl
        · exact absurd hrun not_isRunLine_tokenLine
        · exact absurd hrun not_isRunLine_teamLine
        · exact isRunLine_streamLine_iff.mp hrun
      · exact absurd hrun.isFilled (not_isFilled_of_mem_teamFrame line hframe)
    · intro h
      exact ⟨streamLine task, mem_lines_team_iff.mpr (.inl (by simp)),
        isRunLine_streamLine_iff.mpr h⟩

/-! ## The last line -/

/-- The last line of an entry point. -/
def lastLine : EntryPoint → String
  | guidance => "    print(\"Add Agent and Runner nodes to generate runnable code\")"
  | single _ _ mode => callLine mode
  | team _ _ _ => callLine .async

theorem newline_not_mem_lastLine (e : EntryPoint) : '\n' ∉ e.lastLine.toList := by
  have hcall (mode : ExecutionMode) : '\n' ∉ (callLine mode).toList := by
    cases mode <;> exact newline_not_mem_ofList (by decide)
  cases e with
  | guidance => exact newline_not_mem_ofList (by decide)
  | single _ _ mode => exact hcall mode
  | team _ _ _ => exact hcall .async

/-- Only the entry point that says what is missing ends by printing it. -/
theorem eq_guidance_of_lastLine {e : EntryPoint} (h : e.lastLine = guidance.lastLine) :
    e = guidance := by
  have hcall (mode : ExecutionMode) : callLine mode ≠ guidance.lastLine := by
    cases mode <;> decide
  cases e with
  | guidance => rfl
  | single _ _ mode => exact absurd h (hcall mode)
  | team _ _ _ => exact absurd h (hcall .async)

theorem exists_declaration_eq (e : EntryPoint) :
    ∃ front, e.declaration = front ++ "\n" ++ e.lastLine := by
  have hlast : e.lines.getLast? = some e.lastLine := by
    cases e with
    | guidance => rfl
    | single _ _ mode => cases mode <;> rfl
    | team _ _ _ => rfl
  have hlength : 2 ≤ e.lines.length := by
    cases e with
    | guidance => decide
    | single _ _ mode => cases mode <;> simp [lines]
    | team _ _ _ => simp [lines]
  obtain ⟨front, hlines⟩ := List.getLast?_eq_some_iff.mp hlast
  have hfront : front ≠ [] := by
    rintro rfl
    rw [hlines] at hlength
    simp at hlength
  refine ⟨Text.joinLines front, ?_⟩
  rw [declaration_eq, hlines, Text.joinLines, String.intercalate_append_of_ne_nil hfront
    (List.cons_ne_nil _ _), String.intercalate_singleton]
  rfl

/-- A text that ends with an entry point ends with its last line. -/
theorem getLast?_lines_append_declaration (front : String) (e : EntryPoint) :
    (Text.lines (front ++ e.declaration)).getLast? = some e.lastLine := by
  obtain ⟨body, hbody⟩ := e.exists_declaration_eq
  rw [hbody, ← String.append_assoc, ← String.append_assoc]
  exact Text.getLast?_lines_append_newline _ e.newline_not_mem_lastLine

end EntryPoint

/-! ## Entry points of agents and runners -/

section

variable {d : Defaults} {agents : List Agent} {runners : List Runner} {first : Runner}
  {rest others : List Runner}

/-- The common mode is synchronous exactly if all modes are. -/
theorem commonMode_eq_sync_iff :
    commonMode runners = .sync ↔ ∀ r ∈ runners, r.executionMode = .sync := by
  have hmode (r : Runner) : r.executionMode = .sync ↔ ¬r.executionMode = .async := by
    cases r.executionMode <;> decide
  unfold commonMode
  split
  next h => simp_all
  next h => simp_all

theorem entryPoint_eq_guidance_iff :
    entryPoint d agents runners = .guidance ↔ agents = [] ∨ runners = [] := by
  match runners, agents with
  | [], _ => simp [entryPoint]
  | _ :: _, [] => simp [entryPoint]
  | _ :: _, [_] => simp [entryPoint]
  | _ :: _, _ :: _ :: _ => simp [entryPoint]

theorem lines_declaration_entryPoint : Text.lines (entryPoint d agents runners).declaration =
    (entryPoint d agents runners).lines := by
  refine EntryPoint.lines_declaration fun name hname => ?_
  have hidentifier : name ∈ agents.map (·.identifier d) := by
    match runners, agents with
    | [], _ => cases hname
    | _ :: _, [] => cases hname
    | _ :: _, [_] => exact hname
    | _ :: _, _ :: _ :: _ => exact hname
  obtain ⟨agent, -, rfl⟩ := List.mem_map.mp hidentifier
  exact agent.isNameText_identifier d

/-- The mode of an entry point: that of its runners for a single agent, and asynchronous for a
team. -/
def entryMode (agents : List Agent) (runners : List Runner) : ExecutionMode :=
  if agents.length = 1 then commonMode runners else .async

theorem entryMode_eq_sync_iff : entryMode agents runners = .sync ↔
    agents.length = 1 ∧ ∀ r ∈ runners, r.executionMode = .sync := by
  unfold entryMode
  split
  next h => rw [commonMode_eq_sync_iff, and_iff_right h]
  next h => simp [h]

/-- An entry point with something to run gives the task of the first runner, in one mode. -/
theorem runsAs_entryPoint (hagents : agents ≠ []) :
    EntryPoint.RunsAs (entryMode agents (first :: rest)) (orElse first.input d.task)
      (Text.lines (entryPoint d agents (first :: rest)).declaration) := by
  rw [lines_declaration_entryPoint]
  match agents with
  | [] => exact absurd rfl hagents
  | [agent] => exact EntryPoint.runsAs_single (agent.isNameText_identifier d)
  | _ :: _ :: _ => exact EntryPoint.runsAs_team

/-- In which mode an entry point gives a task is decided once for all of its lines. -/
theorem runsAs_entryPoint_iff (hagents : agents ≠ []) {mode : ExecutionMode} :
    EntryPoint.RunsAs mode (orElse first.input d.task)
        (Text.lines (entryPoint d agents (first :: rest)).declaration) ↔
      entryMode agents (first :: rest) = mode := by
  constructor
  · exact fun h => ((runsAs_entryPoint hagents).unique h).1
  · rintro rfl
    exact runsAs_entryPoint hagents

/-- Of the runners behind the first one, an entry point tells at most whether some runner is
asynchronous, and a team does not even tell that. -/
theorem entryPoint_cons_eq_of_modes (h : agents.length = 1 →
    ((∃ r ∈ first :: others, r.executionMode = .async) ↔
      ∃ r ∈ first :: rest, r.executionMode = .async)) :
    entryPoint d agents (first :: others) = entryPoint d agents (first :: rest) := by
  match agents with
  | [] => rfl
  | [agent] =>
    have hmode : commonMode (first :: others) = commonMode (first :: rest) := by
      have hany (runners : List Runner) : runners.any (·.executionMode = .async) ↔
          ∃ r ∈ runners, r.executionMode = .async := by simp
      rw [commonMode, commonMode, Bool.coe_iff_coe.mp
        ((hany _).trans ((h rfl).trans (hany _).symm))]
    rw [entryPoint, entryPoint, hmode]
  | _ :: _ :: _ => rfl

end

/-! ## The end of a program -/

/-- The entry point is the last part of a program. -/
theorem Blueprint.exists_code_eq (b : Blueprint) (d : Defaults) :
    ∃ front, b.code d = front ++ "\n\n" ++ (b.entry d).declaration := by
  -- no part comes behind the entry point, and at least the imports come in front of it
  obtain ⟨front, back, hparts⟩ := List.append_of_mem (b.mem_presentParts_entryPoint d)
  have hback : back = [] := by
    have hpairwise := b.pairwise_presentParts d
    rw [hparts, List.pairwise_append, List.pairwise_cons] at hpairwise
    rw [List.eq_nil_iff_forall_not_mem]
    intro part hpart
    have hlt := hpairwise.2.1.1 part hpart
    cases part <;> exact absurd hlt (by decide)
  have hfront : front ≠ [] := List.ne_nil_of_mem
    (mem_front_of_idxOf_lt hparts (b.mem_presentParts_imports d) (by decide))
  refine ⟨joinParts (front.map (b.part d)), ?_⟩
  rw [code_eq_joinParts, hparts, hback, List.map_append, List.map_singleton, joinParts,
    String.intercalate_append_of_ne_nil (by simpa using hfront) (List.cons_ne_nil _ _),
    String.intercalate_singleton]
  rfl

/-- A program ends by saying what is missing exactly if there is nothing to run. -/
theorem Blueprint.exists_code_eq_guidance_iff {b : Blueprint} {d : Defaults} :
    (∃ front, b.code d = front ++ EntryPoint.guidance.declaration) ↔ b.entry d = .guidance := by
  obtain ⟨front, hcode⟩ := b.exists_code_eq d
  constructor
  · rintro ⟨other, hother⟩
    -- what a program ends with shows in its last line
    have hlast := EntryPoint.getLast?_lines_append_declaration (front ++ "\n\n") (b.entry d)
    rw [← hcode, hother, EntryPoint.getLast?_lines_append_declaration] at hlast
    exact EntryPoint.eq_guidance_of_lastLine (Option.some.inj hlast).symm
  · intro hentry
    exact ⟨front ++ "\n\n", hentry ▸ hcode⟩

/-! ## Missing kinds -/

/-- The messages that say that a kind of node is missing. -/
def absenceMessages : List String :=
  ["no nodes in workflow", "workflow requires at least one Agent node",
    "workflow requires at least one Runner node to execute a task"]

/-- Whether a diagnostic says that a kind of node is missing. -/
def Diagnostic.isAbsence : Diagnostic → Bool
  | noNodes | noAgent | noRunner => true
  | _ => false

/-- No other diagnostic is worded like one that says that a kind is missing. -/
theorem Diagnostic.message_mem_absenceMessages_iff {x : Diagnostic} :
    x.message ∈ absenceMessages ↔ x.isAbsence := by
  -- the wordings differ in their first character
  have hinitial : ∀ message ∈ absenceMessages, message.toList.head? = some 'n' ∨
      message.toList.head? = some 'w' := by decide
  have hne (h : x.initial ≠ 'n' ∧ x.initial ≠ 'w') : x.message ∉ absenceMessages := by
    intro hmem
    simpa [head?_message, h] using hinitial _ hmem
  cases x with
  | noNodes | noAgent | noRunner => decide
  | unconnectedRunner _ | repeatedAgentName _ | unknownNode _ _ | invalidConnection _ _ _ =>
    exact iff_of_false (hne (by simp [initial])) Bool.false_ne_true

/-- What is said about an edge is not that a kind of node is missing. -/
theorem Diagnostic.not_isAbsence_of_isOnEdge {x : Diagnostic} (h : x.isOnEdge) :
    ¬x.isAbsence := by
  cases x <;> simp_all [isOnEdge, isAbsence]

namespace Workflow

variable {w : Workflow} {b : Blueprint} {d : Defaults} {agents : List Agent}
  {runners : List Runner}

/-- Diagnosing says that a kind of node is missing exactly if there are no agents or no runners. -/
theorem exists_absence_iff {diagnostics : List Diagnostic} (h : w.diagnose = .ok diagnostics) :
    (∃ x ∈ diagnostics, x.isAbsence) ↔ w.nodesOfKind .agent = [] ∨ w.nodesOfKind .runner = [] := by
  by_cases hnodes : w.nodes = []
  · rw [diagnose, hnodes] at h
    cases h
    simp [Diagnostic.isAbsence, nodesOfKind, hnodes]
  -- else there is one complaint for each missing kind, and the others name what they are about
  · obtain ⟨unconnected, names, hunconnected, -, rfl⟩ := (diagnose_eq_ok_iff hnodes).mp h
    have hpresence : (∃ x ∈ w.presenceDiagnostics, x.isAbsence) ↔
        w.nodesOfKind .agent = [] ∨ w.nodesOfKind .runner = [] := by
      unfold presenceDiagnostics
      by_cases hagent : w.nodesOfKind .agent = [] <;>
        by_cases hrunner : w.nodesOfKind .runner = [] <;>
          simp [hagent, hrunner, Diagnostic.isAbsence]
    rw [← hpresence]
    constructor
    · rintro ⟨x, hx, habsence⟩
      simp only [List.mem_append] at hx
      rcases hx with ((hx | hx) | hx) | hx
      · exact ⟨x, hx, habsence⟩
      · obtain ⟨label, rfl⟩ := exists_eq_unconnectedRunner hunconnected x hx
        cases habsence
      · obtain ⟨name, -, rfl⟩ := List.mem_map.mp hx
        cases habsence
      · obtain ⟨edge, -, hedge⟩ := List.mem_flatMap.mp hx
        have honEdge := isOnEdge_of_mem_edgeDiagnostics hedge
        exact absurd habsence (Diagnostic.not_isAbsence_of_isOnEdge honEdge)
    · rintro ⟨x, hx, habsence⟩
      exact ⟨x, by simp [hx], habsence⟩

/-- The attributes of the agents and of the runners of a workflow, in node order. -/
structure Staffed (w : Workflow) (agents : List Agent) (runners : List Runner) : Prop where
  agents : (w.nodesOfKind .agent).map Node.attributes = agents.map fun a => .ok (.agent a)
  runners : (w.nodesOfKind .runner).map Node.attributes = runners.map fun r => .ok (.runner r)

namespace Staffed

theorem agents_eq_nil_iff (h : w.Staffed agents runners) :
    w.nodesOfKind .agent = [] ↔ agents = [] := by
  rw [← List.map_eq_nil_iff, h.agents, List.map_eq_nil_iff]

theorem runners_eq_nil_iff (h : w.Staffed agents runners) :
    w.nodesOfKind .runner = [] ↔ runners = [] := by
  rw [← List.map_eq_nil_iff, h.runners, List.map_eq_nil_iff]

/-- What is listed is read from the nodes. -/
theorem readable (h : w.Staffed agents runners) :
    ∀ node ∈ w.nodesOfKind .agent ++ w.nodesOfKind .runner, node.Readable := by
  have hmap {α : Type} {nodes : List Node} {read : α → Attributes} {as : List α}
      (heq : nodes.map Node.attributes = as.map fun a => .ok (read a)) :
      ∀ node ∈ nodes, node.Readable := by
    intro node hnode
    have hmem := List.mem_map_of_mem (f := Node.attributes) hnode
    rw [heq] at hmem
    obtain ⟨a, -, ha⟩ := List.mem_map.mp hmem
    exact ⟨read a, ha.symm⟩
  rw [List.forall_mem_append]
  exact ⟨hmap h.agents, hmap h.runners⟩

/-- Beside the agents and runners, there are only tools to be read. -/
theorem readable_iff (h : w.Staffed agents runners) :
    w.Readable ↔ ∀ node ∈ w.nodesOfKind .tool, node.Readable := by
  obtain ⟨hagents, hrunners⟩ := List.forall_mem_append.mp h.readable
  constructor
  · exact fun hreadable node hnode => hreadable node (mem_nodesOfKind.mp hnode).1
  · intro htools node hnode
    have hmem := mem_nodesOfKind.mpr ⟨hnode, rfl⟩
    cases hkind : node.kind with
    | agent => exact hagents node (hkind ▸ hmem)
    | runner => exact hrunners node (hkind ▸ hmem)
    | tool => exact htools node (hkind ▸ hmem)

/-- The entry point is that of the agents and runners, although the runners are not read where
there is no agent. -/
theorem entry_eq (h : w.Staffed agents runners) (hb : w.blueprint = .ok b) :
    b.entry d = entryPoint d agents runners := by
  have hagents : b.agents.map (·.value) = agents := by
    refine List.map_injective_iff.mpr (fun _ _ heq => ?_)
      ((attributes_agents hb).symm.trans h.agents)
    exact Attributes.agent.inj (Except.ok.inj heq)
  by_cases hnone : agents = []
  · rw [entryPoint_eq_guidance_iff.mpr (.inl hnone)]
    exact Blueprint.entry_of_eq_nil (.inr (List.map_eq_nil_iff.mp (hagents.trans hnone)))
  · obtain ⟨-, -, hrunners, -⟩ := blueprint_eq_ok_iff.mp hb
    have hne : w.nodesOfKind .agent ≠ [] := fun hnil => hnone (h.agents_eq_nil_iff.mp hnil)
    have hrunners' : b.runners = runners := by
      rw [activeRunners_eq_nodesOfKind hne, h.runners] at hrunners
      refine (List.map_injective_iff.mpr (fun _ _ heq => ?_) hrunners).symm
      exact Attributes.runner.inj (Except.ok.inj heq)
    rw [Blueprint.entry, hagents, hrunners']

end Staffed

/-- How the entry point reads where there is something to run. -/
structure EntryShape (d : Defaults) (agents : List Agent) (first : Runner) (rest : List Runner) :
    Prop where
  /-- The task of the first runner is run synchronously for a single agent and synchronous runners
  only. -/
  sync : EntryPoint.RunsAs .sync (orElse first.input d.task)
      (Text.lines (entryPoint d agents (first :: rest)).declaration) ↔
    agents.length = 1 ∧ ∀ r ∈ first :: rest, r.executionMode = .sync
  /-- In every other case it is run asynchronously. -/
  async : EntryPoint.RunsAs .async (orElse first.input d.task)
      (Text.lines (entryPoint d agents (first :: rest)).declaration) ↔
    ¬(agents.length = 1 ∧ ∀ r ∈ first :: rest, r.executionMode = .sync)
  /-- Other runners may stand behind the first one, for a single agent as long as this does not
  change whether some runner is asynchronous. -/
  unchanged : ∀ others : List Runner, (agents.length = 1 →
      ((∃ r ∈ first :: others, r.executionMode = .async) ↔
        ∃ r ∈ first :: rest, r.executionMode = .async)) →
    (entryPoint d agents (first :: others)).declaration =
      (entryPoint d agents (first :: rest)).declaration

theorem entryShape (d : Defaults) (hagents : agents ≠ []) (first : Runner) (rest : List Runner) :
    EntryShape d agents first rest where
  sync := by rw [runsAs_entryPoint_iff hagents, entryMode_eq_sync_iff]
  async := by
    rw [runsAs_entryPoint_iff hagents, ← entryMode_eq_sync_iff]
    cases entryMode agents (first :: rest) <;> simp
  unchanged others hmodes := by rw [entryPoint_cons_eq_of_modes hmodes]

/-- Where agents and runners can be read, a program is generated unless some tool is unreadable, and
it ends with the entry point of these agents and runners. That only says what is missing exactly if
diagnosing complains that there are no nodes, no agent or no runner. Else it is synchronous in all
of its lines for a single agent and synchronous runners only, and asynchronous in all of its lines
in every other case; it gives the task of the first runner and does not change with the other
runners, except that for a single agent it counts whether one of all runners is asynchronous. -/
theorem generate_entryPoint (hstaff : w.Staffed agents runners) (d : Defaults) :
    ((∃ g, w.generate d = .ok g) ↔ ∀ node ∈ w.nodesOfKind .tool, node.Readable) ∧
    (∀ g, w.generate d = .ok g →
      (∃ front, g.code = front ++ "\n\n" ++ (entryPoint d agents runners).declaration) ∧
      ((∃ front, g.code = front ++ EntryPoint.guidance.declaration) ↔
        ∃ message ∈ g.errors, message ∈ absenceMessages) ∧
      ((∃ message ∈ g.errors, message ∈ absenceMessages) ↔ agents = [] ∨ runners = [])) ∧
    ∀ first rest, runners = first :: rest → agents ≠ [] → EntryShape d agents first rest := by
  refine ⟨exists_generate_eq_ok_iff.trans hstaff.readable_iff, fun g hg => ?_,
    fun first rest _ hagents => entryShape d hagents first rest⟩
  obtain ⟨diagnostics, b, hdiagnostics, hb, rfl⟩ := generate_eq_ok_iff.mp hg
  have habsence : (∃ message ∈ diagnostics.map Diagnostic.message, message ∈ absenceMessages) ↔
      agents = [] ∨ runners = [] := by
    rw [← hstaff.agents_eq_nil_iff, ← hstaff.runners_eq_nil_iff, ← exists_absence_iff hdiagnostics]
    simp only [List.mem_map, exists_exists_and_eq_and, Diagnostic.message_mem_absenceMessages_iff]
  refine ⟨hstaff.entry_eq hb ▸ b.exists_code_eq d, ?_, habsence⟩
  rw [habsence, Blueprint.exists_code_eq_guidance_iff, hstaff.entry_eq hb,
    entryPoint_eq_guidance_iff]

/-- A single agent between two runners, the second of which is asynchronous. -/
def mixedModes : Workflow where
  nodes := [⟨"r", .runner, ⟨.zero, .zero⟩, .obj [("input", .str "Go")]⟩,
    ⟨"a", .agent, ⟨.zero, .zero⟩, .obj []⟩,
    ⟨"s", .runner, ⟨.zero, .zero⟩, .obj [("execution_mode", .str "async")]⟩]
  edges := []

/-- The program of the agent gives it the task of the synchronous runner, but asynchronously. -/
theorem generate_entryPoint_mixedModes :
    ∃ agents first rest, mixedModes.Staffed agents (first :: rest) ∧
      (∃ g, mixedModes.generate .builtIn = .ok g ∧ ∃ front, g.code =
        front ++ "\n\n" ++ (entryPoint .builtIn agents (first :: rest)).declaration) ∧
      first.executionMode = .sync ∧ EntryPoint.RunsAs .async "Go"
        (Text.lines (entryPoint .builtIn agents (first :: rest)).declaration) := by
  have hstaff : mixedModes.Staffed [⟨"New Agent", "", "", .text, none⟩]
      [⟨"New Runner", "Go", "", .sync⟩, ⟨"New Runner", "", "", .async⟩] := ⟨rfl, rfl⟩
  obtain ⟨hgenerate, hends, hshape⟩ := generate_entryPoint hstaff .builtIn
  obtain ⟨g, hg⟩ := hgenerate.mpr (List.forall_mem_nil _)
  refine ⟨_, _, _, hstaff, ⟨g, hg, (hends g hg).1⟩, rfl, ?_⟩
  exact (hshape _ _ rfl (List.cons_ne_nil _ _)).async.mpr (by decide)

end Workflow

end AgentCanvas
