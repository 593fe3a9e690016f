import AgentCanvas.Program.Listing
import AgentCanvas.Proofs.Text.Framed

/-!
# Listings with one frame

Steps that differ only in what their lines quote write listings that differ only in what is quoted:
the depth and the number of lines follow from the frame.

## Key definitions

- `Listing.Step.Framed`: two steps with one frame.

## Key results

- `Listing.step_framed`, `Listing.write_framed`: what one step and what several steps keep.
- `Listing.render_framed`: steps with one frame write texts with one frame.
-/

namespace AgentCanvas.Listing

open Text (InOrder)

variable {κ : Type} {ts us ts' us' : List (κ × String)} {l l' : Listing}

/-- Two steps that are the same, or that write lines with one frame. -/
inductive Step.Framed : List (κ × String) → List (κ × String) → Step → Step → Prop
  | same (s : Step) : Framed [] [] s s
  | line {ts us : List (κ × String)} {x y : String} :
      Text.Framed ts us x y → Framed ts us (.line x) (.line y)

/-- The margin belongs to the frame. -/
theorem atDepth_framed (depth : Int) {x y : String} (h : Text.Framed ts us x y) :
    Text.Framed ts us (atDepth depth x) (atDepth depth y) := by
  unfold atDepth
  by_cases hx : x = ""
  · have hy : y = "" := h.eq_empty_iff.mp hx
    rw [if_pos hx, if_pos hy]
    rwa [hx, hy] at h
  · have hy : y ≠ "" := fun hy => hx (h.eq_empty_iff.mpr hy)
    rw [if_neg hx, if_neg hy]
    exact h.prepend (margin depth)

/-- At one depth a step writes the same lines whatever was written before. -/
theorem step_same (s : Step) (h : l.depth = l'.depth) : (l.step s).depth = (l'.step s).depth ∧
    ∃ added, (l.step s).lines = l.lines ++ added ∧ (l'.step s).lines = l'.lines ++ added := by
  obtain ⟨lines, depth⟩ := l
  obtain ⟨lines', _⟩ := l'
  obtain rfl := h
  cases s with
  | line _ | blank | comment _ | block _ => exact ⟨rfl, _, rfl, rfl⟩
  | indent | dedent => exact ⟨rfl, [], (List.append_nil _).symm, (List.append_nil _).symm⟩

/-- A step keeps one depth and adds lines with one frame. -/
theorem step_framed {s s' : Step} (hs : Step.Framed ts' us' s s') (hdepth : l.depth = l'.depth)
    (hlines : InOrder Text.Framed ts us l.lines l'.lines) :
    (l.step s).depth = (l'.step s').depth ∧
      InOrder Text.Framed (ts ++ ts') (us ++ us') (l.step s).lines (l'.step s').lines := by
  cases hs with
  | same s =>
    obtain ⟨hdepth, added, hl, hl'⟩ := step_same s hdepth
    rw [hl, hl']
    exact ⟨hdepth, hlines.append (.refl .fixed added)⟩
  | line hxy =>
    have hline := InOrder.cons (atDepth_framed l.depth hxy) .nil
    rw [List.append_nil, List.append_nil] at hline
    refine ⟨hdepth, hlines.append ?_⟩
    rw [← hdepth]
    exact hline

/-- Steps keep one depth and add lines with one frame. -/
theorem write_framed {steps steps' : List Step} (hsteps : InOrder Step.Framed ts' us' steps steps')
    (hdepth : l.depth = l'.depth) (hlines : InOrder Text.Framed ts us l.lines l'.lines) :
    InOrder Text.Framed (ts ++ ts') (us ++ us') (l.write steps).lines (l'.write steps').lines := by
  -- the invariant is one depth and lines with one frame; it holds for any lines written before
  induction hsteps generalizing l l' ts us with
  | nil =>
    rw [List.append_nil, List.append_nil]
    exact hlines
  | cons hs _ ih =>
    obtain ⟨hdepth, hlines⟩ := step_framed hs hdepth hlines
    rw [← List.append_assoc, ← List.append_assoc]
    exact ih hdepth hlines

/-- Steps with one frame write texts with one frame. -/
theorem render_framed {steps steps' : List Step} (h : InOrder Step.Framed ts us steps steps') :
    Text.Framed ts us (render steps) (render steps') := by
  have hstart : InOrder (@Text.Framed κ) [] [] (startAt 0).lines (startAt 0).lines := .nil
  exact (write_framed h rfl hstart).intercalate "\n"

end AgentCanvas.Listing
