import AgentCanvas.Proofs.ForStd.List
import AgentCanvas.Text.Lines

/-!
# Lines of joined texts

How many lines a text has, if newlines end them and if any line ending does, and where the lines and
the line endings of a text can be found piece by piece.

## Key definitions

- `Text.sourceLines`: the lines of a program text, which any line ending ends.

## Key results

- `Text.length_lines`: a text has one line more than it has newlines.
- `Text.lines_joinLines`: the lines of joined texts are those of each text.
- `Text.normalizeNewlines_append_cons`, `Text.normalizeNewlines_append_of_not_mem`: where line
  endings can be turned into newlines piece by piece.
-/

namespace AgentCanvas.Text

/-- The lines of a program text: newlines, carriage returns and both together end them. -/
def sourceLines (s : String) : List String :=
  lines (String.ofList (normalizeNewlines s.toList))

/-- A text has one line more than it has newlines. -/
theorem length_lines (s : String) : (lines s).length = s.toList.count '\n' + 1 := by
  rw [lines, List.length_map, List.length_splitOn]

/-- A line holds no newline. -/
theorem newline_not_mem_of_mem_lines {s line : String} (h : line ∈ lines s) :
    '\n' ∉ line.toList := by
  obtain ⟨part, hpart, rfl⟩ := List.mem_map.mp h
  rw [String.toList_ofList]
  exact List.not_mem_of_mem_splitOn hpart

/-- A text without newlines is one line. -/
theorem lines_eq_singleton {s : String} (h : '\n' ∉ s.toList) : lines s = [s] := by
  rw [lines, List.splitOn_eq_singleton h, List.map_singleton, String.ofList_toList]

/-- Text without newlines runs on into the first line of what is behind it. -/
theorem exists_line_append {front : String} (h : '\n' ∉ front.toList) (rest : String) :
    ∃ tail, front ++ tail ∈ lines (front ++ rest) := by
  have hsplit : lines (front ++ rest) =
      ((rest.toList.splitOn '\n').modifyHead (front.toList ++ ·)).map String.ofList := by
    rw [lines, String.toList_append, List.splitOn_append_of_not_mem h]
  cases hlines : rest.toList.splitOn '\n' with
  | nil =>
    have hlength := List.length_splitOn '\n' rest.toList
    simp [hlines] at hlength
  | cons first others =>
    refine ⟨String.ofList first, ?_⟩
    rw [hsplit, hlines, List.modifyHead_cons, List.map_cons, String.ofList_append,
      String.ofList_toList]
    exact List.mem_cons_self

/-- A newline ends the lines in front of it. -/
theorem lines_append_newline (s t : String) : lines (s ++ "\n" ++ t) = lines s ++ lines t := by
  have hlist : (s ++ "\n" ++ t).toList = s.toList ++ '\n' :: t.toList := by simp
  rw [lines, hlist, List.splitOn_append_cons_self, List.map_append]
  rfl

/-- What stands behind the last newline is the last line. -/
theorem getLast?_lines_append_newline (s : String) {line : String} (h : '\n' ∉ line.toList) :
    (lines (s ++ "\n" ++ line)).getLast? = some line := by
  rw [lines_append_newline, lines_eq_singleton h, List.getLast?_concat]

/-- The lines of joined texts are those of each text. -/
theorem lines_joinLines {texts : List String} (h : texts ≠ []) :
    lines (joinLines texts) = texts.flatMap lines := by
  induction texts with
  | nil => exact absurd rfl h
  | cons first rest ih =>
    cases rest with
    | nil => simp [joinLines]
    | cons next rest =>
      rw [joinLines, String.intercalate_cons_cons, lines_append_newline, List.flatMap_cons,
        ← joinLines, ih (List.cons_ne_nil _ _)]

/-- Joined lines are read back if none of them holds a newline. -/
theorem lines_joinLines_of_forall {texts : List String} (h : texts ≠ [])
    (hplain : ∀ text ∈ texts, '\n' ∉ text.toList) : lines (joinLines texts) = texts := by
  rw [lines_joinLines h]
  calc texts.flatMap lines
    _ = texts.flatMap fun text => [text] :=
        List.flatMap_congr fun text htext => lines_eq_singleton (hplain text htext)
    _ = texts := List.flatMap_singleton' texts

/-- Newlines stand between the lines of a text, and every other character in one of them. -/
theorem exists_mem_lines_of_mem {s : String} {c : Char} (h : c ∈ s.toList) (hc : c ≠ '\n') :
    ∃ line ∈ lines s, c ∈ line.toList := by
  have hjoin (texts : List String) (h : c ∈ (joinLines texts).toList) :
      ∃ text ∈ texts, c ∈ text.toList := by
    induction texts with
    | nil => simp [joinLines] at h
    | cons first rest ih =>
      cases rest with
      | nil => exact ⟨first, List.mem_cons_self, by simpa [joinLines] using h⟩
      | cons next rest =>
        rw [joinLines, String.intercalate_cons_cons, ← joinLines] at h
        simp only [String.toList_append, List.mem_append] at h
        rcases h with (h | h) | h
        · exact ⟨first, List.mem_cons_self, h⟩
        · exact absurd (List.mem_singleton.mp h) hc
        · obtain ⟨text, htext, hmem⟩ := ih h
          exact ⟨text, List.mem_cons_of_mem _ htext, hmem⟩
  rw [← joinLines_lines s] at h
  exact hjoin _ h

/-- Joined texts are in front of what more texts are joined to. -/
theorem joinLines_isPrefix_append (front behind : List String) :
    (joinLines front).toList <+: (joinLines (front ++ behind)).toList := by
  induction front with
  | nil => exact List.nil_prefix
  | cons first rest ih =>
    cases rest with
    | nil =>
      cases behind with
      | nil => exact List.prefix_refl _
      | cons next more =>
        simp only [joinLines, List.cons_append, List.nil_append, String.intercalate_cons_cons,
          String.intercalate_singleton, String.toList_append, List.append_assoc]
        exact List.prefix_append _ _
    | cons next more =>
      simp only [joinLines, List.cons_append, String.intercalate_cons_cons, String.toList_append]
      exact (List.prefix_append_right_inj _).mpr ih

theorem length_sourceLines (s : String) :
    (sourceLines s).length = (normalizeNewlines s.toList).count '\n' + 1 := by
  rw [sourceLines, length_lines, String.toList_ofList]

/-- Unless a newline follows a carriage return, a character is turned on its own. -/
theorem normalizeNewlines_cons {c : Char} {rest : List Char}
    (h : ∀ tail, c = '\r' → rest ≠ '\n' :: tail) :
    normalizeNewlines (c :: rest) = (if c = '\r' then '\n' else c) :: normalizeNewlines rest := by
  rw [normalizeNewlines]
  exact h

/-- A character that is no carriage return is kept. -/
theorem normalizeNewlines_cons_of_ne {c : Char} (h : c ≠ '\r') (rest : List Char) :
    normalizeNewlines (c :: rest) = c :: normalizeNewlines rest := by
  rw [normalizeNewlines_cons fun _ hc => absurd hc h, if_neg h]

/-- Text without carriage returns is kept. -/
theorem normalizeNewlines_append_of_not_mem {front : List Char} (h : '\r' ∉ front)
    (rest : List Char) : normalizeNewlines (front ++ rest) = front ++ normalizeNewlines rest := by
  induction front with
  | nil => rfl
  | cons c tail ih =>
    obtain ⟨hc, htail⟩ := List.ne_and_not_mem_of_not_mem_cons h
    rw [List.cons_append, normalizeNewlines_cons_of_ne hc.symm, ih htail, List.cons_append]

/-- No line ending goes beyond a character that is no newline. -/
theorem normalizeNewlines_append_cons (front : List Char) {c : Char} (h : c ≠ '\n')
    (rest : List Char) : normalizeNewlines (front ++ c :: rest) =
      normalizeNewlines front ++ normalizeNewlines (c :: rest) := by
  induction front using normalizeNewlines.induct with
  | case1 => rfl
  | case2 tail ih => simp only [List.cons_append, normalizeNewlines, ih]
  | case3 b tail hb ih =>
    -- behind the front stands `c`, so a newline that follows `b` stands in the front
    have hnext : ∀ later, b = '\r' → tail ++ c :: rest ≠ '\n' :: later := by
      intro later hreturn heq
      cases tail with
      | nil => exact h (List.cons.inj heq).1
      | cons first tail => exact hb tail hreturn (by rw [(List.cons.inj heq).1])
    rw [List.cons_append, normalizeNewlines_cons hnext, ih, normalizeNewlines_cons hb,
      List.cons_append]

/-- Without carriage returns, newlines alone end the lines of a program text. -/
theorem sourceLines_eq_lines {s : String} (h : '\r' ∉ s.toList) : sourceLines s = lines s := by
  have hkept := normalizeNewlines_append_of_not_mem h []
  rw [normalizeNewlines, List.append_nil] at hkept
  rw [sourceLines, hkept, String.ofList_toList]

end AgentCanvas.Text
