import AgentCanvas.Proofs.Program.Layout
import AgentCanvas.Proofs.Text.Framed
import Mathlib.Data.List.Induction

/-!
# Indentation of listings

What depth does to the lines of a listing. A block is written line by line with the margin of the
depth in front of every line that is not blank, and it can be read back from what is written. Steps
that never undo an indentation made before them write the same lines at any depth, further to the
right by as many margins; empty lines and the blank lines of blocks stay where they are.

## Key definitions

- `Listing.withoutMargin`: a written line of a block without its margin.
- `Listing.Step.indented`, `Listing.moveRight`: which lines take a margin, and what more depth does
  to them.
- `Listing.NeverBelow`: steps that never go back to less than the depth at which they begin.
- `Listing.Nested`: one listing is another one at more depth.

## Key results

- `Listing.withoutMargin_blockLine`, `Listing.block_verbatim`: blocks are kept.
- `Listing.depth_write_nonneg`, `Listing.text_isPrefix_write`: what all steps keep.
- `Listing.Nested.step`, `Listing.nested_write`: one step and several steps at more depth.
- `Listing.write_nested`: what several steps write at any depth.
-/

namespace AgentCanvas.Listing

open Text (isBlankText joinLines)

/-! ## Blocks -/

theorem isBlankText_margin (depth : Int) : isBlankText (margin depth) := by
  rw [isBlankText, margin, String.toList_ofList, List.all_eq_true]
  intro c hc
  rw [List.eq_of_mem_replicate hc]
  decide

/-- The margin makes no line blank, and none that is blank otherwise. -/
theorem isBlankText_blockLine (depth : Int) (line : String) :
    isBlankText (blockLine depth line) = isBlankText line := by
  unfold blockLine
  split
  · rfl
  · rw [Text.Framed.isBlankText_append, isBlankText_margin, Bool.true_and]

/-- A line without the margin of a depth. Blank lines have none. -/
def withoutMargin (depth : Int) (line : String) : String :=
  if isBlankText line then line else String.ofList (line.toList.drop (4 * depth.toNat))

/-- A line of a block is read back from what is written, which tells whether there is a margin. -/
theorem withoutMargin_blockLine (depth : Int) (line : String) :
    withoutMargin depth (blockLine depth line) = line := by
  rw [withoutMargin, isBlankText_blockLine]
  by_cases hblank : isBlankText line
  · rw [if_pos hblank, blockLine, if_pos hblank]
  · have hmargin : (margin depth).toList.length = 4 * depth.toNat := by simp [margin]
    rw [if_neg hblank, blockLine, if_neg hblank, String.toList_append, List.drop_left' hmargin,
      String.ofList_toList]

/-- A block is read back from its written lines. -/
theorem joinLines_withoutMargin (depth : Int) (text : String) :
    joinLines (((Text.lines text).map (blockLine depth)).map (withoutMargin depth)) = text := by
  have hlines : ((Text.lines text).map (blockLine depth)).map (withoutMargin depth) =
      Text.lines text := by
    simp [Function.comp_def, withoutMargin_blockLine]
  rw [hlines, Text.joinLines_lines]

theorem blockLine_zero (line : String) : blockLine 0 line = line := by
  unfold blockLine
  split
  · rfl
  · exact String.empty_append

/-- A block adds one line more than it has newlines, and leaves the depth and the lines before it as
they are. Without the margin of the depth in front of those that are not blank, the lines are those
of the text; so the text can be told from them, and without depth it is what is written. A block of
two texts with a newline between them is the same as two blocks. -/
theorem block_verbatim (l : Listing) (text : String) :
    (∃ added, l.step (.block text) = ⟨l.lines ++ added, l.depth⟩ ∧
      added.length = text.toList.count '\n' + 1 ∧
      joinLines (added.map (withoutMargin l.depth)) = text) ∧
    (∀ other, l.step (.block other) = l.step (.block text) ↔ other = text) ∧
    render [.block text] = text ∧
    ∀ behind, l.step (.block (text ++ "\n" ++ behind)) =
      (l.step (.block text)).step (.block behind) := by
  refine ⟨⟨_, rfl, ?_, joinLines_withoutMargin l.depth text⟩, fun other => ⟨fun h => ?_, ?_⟩, ?_,
    fun behind => ?_⟩
  · rw [List.length_map, Text.length_lines]
  · have hadded := List.append_cancel_left (congrArg Listing.lines h)
    rw [← joinLines_withoutMargin l.depth other, hadded, joinLines_withoutMargin]
  · rintro rfl
    rfl
  · have hlines : (Text.lines text).map (blockLine 0) = Text.lines text :=
      (List.map_congr_left fun line _ => blockLine_zero line).trans (List.map_id _)
    change joinLines ([] ++ (Text.lines text).map (blockLine 0)) = text
    rw [hlines, List.nil_append, Text.joinLines_lines]
  · simp only [step, append, Text.lines_append_newline, List.map_append, List.append_assoc]

/-! ## Depth and text of several steps -/

/-- Depth does not fall below zero. -/
theorem depth_step_nonneg {l : Listing} (h : 0 ≤ l.depth) (s : Step) : 0 ≤ (l.step s).depth := by
  cases s with
  | line _ | blank | comment _ | block _ => exact h
  | indent => exact Int.add_nonneg h Int.one_nonneg
  | dedent => exact Int.le_max_left _ _

theorem depth_write_nonneg {l : Listing} (h : 0 ≤ l.depth) (steps : List Step) :
    0 ≤ (l.write steps).depth := by
  induction steps generalizing l with
  | nil => exact h
  | cons s rest ih => exact ih (depth_step_nonneg h s)

/-- What is written stays at the front of the text. -/
theorem text_isPrefix_write (l : Listing) (steps : List Step) :
    l.text.toList <+: (l.write steps).text.toList := by
  rw [text, text, lines_write]
  exact Text.joinLines_isPrefix_append _ _

/-- Steps that never go back to less than the depth at which they begin. -/
def NeverBelow (steps : List Step) : Prop :=
  ∀ first, first <+: steps → first.count .dedent ≤ first.count .indent

theorem NeverBelow.of_concat {steps : List Step} {s : Step} (h : NeverBelow (steps ++ [s])) :
    NeverBelow steps :=
  fun first hfirst => h first (hfirst.trans (List.prefix_append _ _))

/-- Such steps go back only after they have gone further. -/
theorem NeverBelow.count_lt {steps : List Step} (h : NeverBelow (steps ++ [.dedent])) :
    steps.count .dedent < steps.count .indent := by
  have hlast := h _ (List.prefix_refl _)
  rw [List.count_append, List.count_append] at hlast
  exact Nat.lt_of_succ_le hlast

/-- Each of such steps counts for the depth. -/
theorem NeverBelow.depth_write {steps : List Step} (h : NeverBelow steps) (n : Nat) :
    ((startAt n).write steps).depth = n + steps.count .indent - steps.count .dedent := by
  -- induction from behind: the steps before the last one are such steps as well
  induction steps using List.reverseRecOn with
  | nil => simp [write, startAt]
  | append_singleton steps s ih =>
    have hbefore := ih h.of_concat
    have hwrite : (startAt n).write (steps ++ [s]) = ((startAt n).write steps).step s :=
      write_append _ _ _
    rw [hwrite, List.count_append, List.count_append]
    cases s with
    | line _ | blank | comment _ | block _ => simpa [step, append] using hbefore
    | indent =>
      change ((startAt n).write steps).depth + 1 = n + ((steps.count .indent + 1 : Nat) : Int) -
        ((steps.count .dedent + 0 : Nat) : Int)
      omega
    | dedent =>
      have hlt := h.count_lt
      change max 0 (((startAt n).write steps).depth - 1) =
        n + ((steps.count .indent + 0 : Nat) : Int) - ((steps.count .dedent + 1 : Nat) : Int)
      omega

/-! ## Nesting -/

/-- For each line that a step writes, whether it takes the margin of the depth. -/
def Step.indented : Step → List Bool
  | .line text => [text ≠ ""]
  | .blank => [false]
  | .comment _ => [true]
  | .indent | .dedent => []
  | .block text => (Text.lines text).map fun line => !isBlankText line

/-- A line at more depth: it has four spaces more in front for each level, if it takes a margin. -/
def moveRight (levels : Nat) (indented : Bool) (line : String) : String :=
  if indented then String.ofList (List.replicate (4 * levels) ' ') ++ line else line

section

variable {depth : Int} (h : 0 ≤ depth) (n : Nat)
include h

theorem margin_add : margin (depth + n) =
    String.ofList (List.replicate (4 * n) ' ') ++ margin depth := by
  have hdepth : 4 * (depth + n).toNat = 4 * n + 4 * depth.toNat := by omega
  rw [margin, margin, hdepth, ← List.replicate_append_replicate, String.ofList_append]

theorem atDepth_add (text : String) :
    atDepth (depth + n) text = moveRight n (text ≠ "") (atDepth depth text) := by
  by_cases htext : text = ""
  · simp [atDepth, moveRight, htext]
  · simp [atDepth, moveRight, htext, margin_add h, String.append_assoc]

theorem blockLine_add (line : String) :
    blockLine (depth + n) line = moveRight n (!isBlankText line) (blockLine depth line) := by
  by_cases hline : isBlankText line
  · simp [blockLine, moveRight, hline]
  · simp [blockLine, moveRight, hline, margin_add h, String.append_assoc]

end

/-- The second listing is the first one at more depth. -/
structure Nested (n : Nat) (indented : List Bool) (l inner : Listing) : Prop where
  depth : inner.depth = l.depth + n
  /-- Every line either takes a margin or does not. -/
  length : indented.length = l.lines.length
  lines : inner.lines = List.zipWith (moveRight n) indented l.lines

namespace Nested

variable {n : Nat} {indented more : List Bool} {l inner : Listing} {added : List String}

theorem append (h : Nested n indented l inner) (hlength : more.length = added.length) :
    Nested n (indented ++ more) (l.append added)
      (inner.append (List.zipWith (moveRight n) more added)) where
  depth := h.depth
  length := by simp [Listing.append, h.length, hlength]
  lines := by simp only [Listing.append, h.lines, List.zipWith_append h.length]

/-- The depth alone may change by a step. -/
theorem withDepth (h : Nested n indented l inner) {depth deeper : Int}
    (hdepth : deeper = depth + n) :
    Nested n (indented ++ []) { l with depth := depth } { inner with depth := deeper } where
  depth := hdepth
  length := by rw [List.append_nil, h.length]
  lines := by rw [List.append_nil, h.lines]

/-- A step is the same at more depth, unless it goes back to less than no depth. -/
theorem step (h : Nested n indented l inner) (hdepth : 0 ≤ l.depth) {s : Step}
    (hdedent : s = .dedent → 0 < l.depth) :
    Nested n (indented ++ s.indented) (l.step s) (inner.step s) := by
  cases s with
  | line text =>
    have hline : inner.step (.line text) =
        inner.append (List.zipWith (moveRight n) [text ≠ ""] [atDepth l.depth text]) := by
      simp [Listing.step, h.depth, atDepth_add hdepth]
    rw [hline]
    exact h.append rfl
  | blank => exact h.append rfl
  | comment text =>
    have hline : inner.step (.comment text) =
        inner.append (List.zipWith (moveRight n) [true] [atDepth l.depth ("# " ++ text)]) := by
      simp [Listing.step, h.depth, atDepth_add hdepth]
    rw [hline]
    exact h.append rfl
  | indent =>
    refine h.withDepth ?_
    rw [h.depth]
    omega
  | dedent =>
    -- neither listing is stopped at zero
    have hpositive := hdedent rfl
    refine h.withDepth ?_
    rw [h.depth]
    omega
  | block text =>
    have hblock : inner.step (.block text) = inner.append (List.zipWith (moveRight n)
        ((Text.lines text).map fun line => !isBlankText line)
        ((Text.lines text).map (blockLine l.depth))) := by
      rw [Listing.step, h.depth, funext (blockLine_add hdepth n), List.zipWith_map,
        List.zipWith_self]
    rw [hblock]
    exact h.append (by simp [Step.indented])

end Nested

/-- Steps that never go back to less than the depth at which they begin are the same at more
depth. -/
theorem nested_write (n : Nat) {steps : List Step} (h : NeverBelow steps) :
    Nested n (steps.flatMap Step.indented) ((startAt 0).write steps) ((startAt n).write steps) := by
  -- the last step is taken at the depth that the steps before it have left
  induction steps using List.reverseRecOn with
  | nil => exact ⟨(Int.zero_add _).symm, rfl, rfl⟩
  | append_singleton steps s ih =>
    rw [List.flatMap_append, List.flatMap_singleton, write_append, write_append]
    refine (ih h.of_concat).step (depth_write_nonneg (Int.le_refl 0) steps) fun hdedent => ?_
    have hdepth := h.of_concat.depth_write 0
    subst hdedent
    have hlt := h.count_lt
    change ((startAt 0).write steps).depth = 0 + _ - _ at hdepth
    omega

/-- Steps that are written at some depth never leave a depth below zero, and the text after any of
them stands at the front of the text in the end. If they never go back to less than the depth at
which they begin, then they write at any depth the lines that they write without depth, only that
those that take a margin have four spaces more in front for each level: all but empty lines and the
blank lines of blocks. If such steps go back as often as they go further, they leave the depth at
which they begin. -/
theorem write_nested (n : Nat) (steps : List Step) :
    (∀ first, first <+: steps → 0 ≤ ((startAt n).write first).depth ∧
      ((startAt n).write first).text.toList <+: ((startAt n).write steps).text.toList) ∧
    ((∀ first, first <+: steps → first.count .dedent ≤ first.count .indent) →
      (steps.flatMap Step.indented).length = ((startAt 0).write steps).lines.length ∧
      ((startAt n).write steps).lines = List.zipWith (moveRight n)
        (steps.flatMap Step.indented) ((startAt 0).write steps).lines ∧
      (steps.count .indent = steps.count .dedent → ((startAt n).write steps).depth = n)) := by
  refine ⟨fun first hfirst => ⟨depth_write_nonneg (Int.natCast_nonneg n) first, ?_⟩,
    fun h => ⟨(nested_write n h).length, (nested_write n h).lines, fun hcount => ?_⟩⟩
  · obtain ⟨rest, rfl⟩ := hfirst
    rw [write_append]
    exact text_isPrefix_write _ rest
  · have hdepth := NeverBelow.depth_write h n
    omega

/-- The steps of a function with a body that is given as a block, and a line of one space. -/
def functionSteps : List Step :=
  [.line "def f():", .indent, .block "a\n \nb", .line "", .comment "c", .dedent, .line " "]

/-- At a depth of two, the function stands eight spaces further to the right: all of its lines but
the empty one and the blank one of the block. -/
theorem write_nested_functionSteps :
    [Step.line "def f():"] <+: functionSteps ∧
    (∀ first, first <+: functionSteps → first.count .dedent ≤ first.count .indent) ∧
    functionSteps.count .indent = functionSteps.count .dedent ∧
    ((startAt 0).write functionSteps).lines =
      ["def f():", "    a", " ", "    b", "", "    # c", " "] ∧
    ((startAt 2).write functionSteps).lines = ["        def f():", "            a", " ",
      "            b", "", "            # c", "         "] ∧
    ((startAt 2).write functionSteps).depth = 2 ∧
    "        def f():".toList <+: ((startAt 2).write functionSteps).text.toList := by
  have hfirst : [Step.line "def f():"] <+: functionSteps := List.prefix_append _ _
  have habove : ∀ first, first <+: functionSteps → first.count .dedent ≤ first.count .indent := by
    have htake : ∀ k < 8, (functionSteps.take k).count .dedent ≤
        (functionSteps.take k).count .indent := by decide
    intro first h
    rw [List.prefix_iff_eq_take.mp h]
    exact htake _ (Nat.lt_succ_of_le h.length_le)
  have hcount : functionSteps.count .indent = functionSteps.count .dedent := rfl
  obtain ⟨hstarts, hnested⟩ := write_nested 2 functionSteps
  obtain ⟨-, hlines, hdepth⟩ := hnested habove
  exact ⟨hfirst, habove, hcount, rfl, hlines, hdepth hcount, (hstarts _ hfirst).2⟩

end AgentCanvas.Listing
