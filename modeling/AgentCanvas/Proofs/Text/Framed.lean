import AgentCanvas.Proofs.Text.Lines
import AgentCanvas.Proofs.Text.Quoted

/-!
# Texts around quoted texts

Two texts with one frame are made of the same segments with quoted texts between them; only what is
quoted may differ. Such texts are blank together and have the same number of lines, because what is
quoted stays on its line.

## Key definitions

- `Text.fill`: segments with quoted texts between them.
- `Text.Framed`: two texts with one frame, and what is quoted in each of them.
- `Text.InOrder`: two lists whose items have one frame each.

## Key results

- `Text.Framed.append`, `Text.InOrder.intercalate`: texts with one frame may be put together.
- `Text.InOrder.filter_isBlankText`: leaving out blank texts leaves out nothing that is quoted.
- `Text.Framed.exists_fill`: the segments of a frame.
- `Text.Framed.length_lines_eq`, `Text.Framed.length_sourceLines_eq`: the number of lines belongs to
  the frame.
-/

namespace AgentCanvas.Text

/-- The text of segments with a quoted text between each two of them. -/
def fill (segment : String) : List String → List String → String
  | text :: texts, next :: segments => segment ++ quote text ++ fill next texts segments
  | _, _ => segment

variable {κ : Type}

/-- The texts `x` and `y` are the same but for what is quoted in them: `ts` in the one and `us` in
the other, text by text of the same sort. -/
inductive Framed : List (κ × String) → List (κ × String) → String → String → Prop
  | fixed (segment : String) : Framed [] [] segment segment
  | slot (segment : String) (sort : κ) (t u : String) {ts us : List (κ × String)} {x y : String} :
      Framed ts us x y →
        Framed ((sort, t) :: ts) ((sort, u) :: us)
          (segment ++ quote t ++ x) (segment ++ quote u ++ y)

namespace Framed

variable {ts us ts' us' : List (κ × String)} {x y x' y' : String}

/-! ## Putting texts together -/

theorem prepend (segment : String) (h : Framed ts us x y) :
    Framed ts us (segment ++ x) (segment ++ y) := by
  cases h with
  | fixed _ => exact fixed _
  | slot other sort t u h =>
    simp only [← String.append_assoc]
    exact slot (segment ++ other) sort t u h

/-- Texts with one frame may be put together. -/
theorem append (h : Framed ts us x y) (h' : Framed ts' us' x' y') :
    Framed (ts ++ ts') (us ++ us') (x ++ x') (y ++ y') := by
  -- induction on the first text, whose last segment runs on into the second text
  induction h with
  | fixed segment => exact h'.prepend segment
  | slot segment sort t u _ ih =>
    have hbehind (v x x' : String) :
        segment ++ quote v ++ x ++ x' = segment ++ quote v ++ (x ++ x') := String.append_assoc
    rw [hbehind, hbehind]
    exact slot segment sort t u ih

/-! ## What belongs to the frame -/

/-- What is quoted in two texts with one frame is of the same sorts. -/
theorem sorts_eq (h : Framed ts us x y) : ts.map Prod.fst = us.map Prod.fst := by
  induction h with
  | fixed _ => rfl
  | slot _ _ _ _ _ ih => rw [List.map_cons, List.map_cons, ih]

theorem eq_empty_iff (h : Framed ts us x y) : x = "" ↔ y = "" := by
  cases h with
  | fixed _ => rfl
  | slot _ _ t u _ => simp [quote_ne_empty]

theorem isBlankText_append (s t : String) :
    isBlankText (s ++ t) = (isBlankText s && isBlankText t) := by
  simp [isBlankText]

/-- Texts with one frame are blank together. -/
theorem isBlankText_eq (h : Framed ts us x y) : isBlankText x = isBlankText y := by
  cases h with
  | fixed _ => rfl
  | slot _ _ t u _ => simp [isBlankText_append, isBlankText_quote]

/-- Nothing is quoted in a blank text. -/
theorem eq_nil_of_isBlankText (h : Framed ts us x y) (hblank : isBlankText x) :
    ts = [] ∧ us = [] := by
  cases h with
  | fixed _ => exact ⟨rfl, rfl⟩
  | slot _ _ t u _ => simp [isBlankText_append, isBlankText_quote] at hblank

/-- Newlines stand in the frame only. -/
theorem length_lines_eq (h : Framed ts us x y) : (lines x).length = (lines y).length := by
  rw [length_lines, length_lines]
  induction h with
  | fixed _ => rfl
  | slot segment _ t u _ ih =>
    simp only [String.toList_append, List.count_append,
      List.count_eq_zero_of_not_mem (newline_not_mem_quote _)]
    omega

/-- A quoted text keeps the line endings before and behind it apart. -/
theorem normalizeNewlines_slot (segment t x : String) :
    normalizeNewlines (segment ++ quote t ++ x).toList =
      normalizeNewlines segment.toList ++ (quote t).toList ++ normalizeNewlines x.toList := by
  have hquote : normalizeNewlines ((quote t).toList ++ x.toList) =
      (quote t).toList ++ normalizeNewlines x.toList :=
    normalizeNewlines_append_of_not_mem (return_not_mem_quote t) x.toList
  rw [String.toList_append, String.toList_append, List.append_assoc, List.append_assoc, ← hquote,
    toList_quote, List.cons_append]
  exact normalizeNewlines_append_cons _ (by decide) _

/-- Line endings stand in the frame only. -/
theorem length_sourceLines_eq (h : Framed ts us x y) :
    (sourceLines x).length = (sourceLines y).length := by
  rw [length_sourceLines, length_sourceLines]
  induction h with
  | fixed _ => rfl
  | slot segment _ t u _ ih =>
    simp only [normalizeNewlines_slot, List.count_append,
      List.count_eq_zero_of_not_mem (newline_not_mem_quote _)]
    omega

/-- Two texts with one frame are made of the same segments, one more than there are quoted
texts. -/
theorem exists_fill (h : Framed ts us x y) : ∃ first segments,
    segments.length = ts.length ∧ segments.length = us.length ∧
      x = fill first (ts.map Prod.snd) segments ∧ y = fill first (us.map Prod.snd) segments := by
  induction h with
  | fixed segment => exact ⟨segment, [], rfl, rfl, rfl, rfl⟩
  | slot segment sort t u _ ih =>
    obtain ⟨next, segments, hts, hus, rfl, rfl⟩ := ih
    refine ⟨segment, next :: segments, ?_, ?_, rfl, rfl⟩
    · rw [List.length_cons, List.length_cons, hts]
    · rw [List.length_cons, List.length_cons, hus]

end Framed

/-! ## Lists -/

/-- Two lists whose items are related one by one; what is quoted in the items comes in order. -/
inductive InOrder {κ α β : Type} (R : List κ → List κ → α → β → Prop) :
    List κ → List κ → List α → List β → Prop
  | nil : InOrder R [] [] [] []
  | cons {ts us ts' us' : List κ} {a : α} {b : β} {as : List α} {bs : List β} :
      R ts us a b → InOrder R ts' us' as bs →
        InOrder R (ts ++ ts') (us ++ us') (a :: as) (b :: bs)

namespace InOrder

variable {α β : Type}

theorem append {κ : Type} {R : List κ → List κ → α → β → Prop} {ts us ts' us' : List κ}
    {as as' : List α} {bs bs' : List β} (h : InOrder R ts us as bs)
    (h' : InOrder R ts' us' as' bs') :
    InOrder R (ts ++ ts') (us ++ us') (as ++ as') (bs ++ bs') := by
  induction h with
  | nil => exact h'
  | cons hab _ ih =>
    rw [List.append_assoc, List.append_assoc]
    exact cons hab ih

/-- Where nothing is quoted, a list goes with itself. -/
theorem refl {κ : Type} {R : List κ → List κ → α → α → Prop} (h : ∀ a, R [] [] a a)
    (as : List α) : InOrder R [] [] as as := by
  induction as with
  | nil => exact nil
  | cons a _ ih => exact cons (h a) ih

/-- What is quoted in the items may be computed from what they are made of. -/
theorem of_forall₂ {κ γ δ : Type} {R : List κ → List κ → γ → δ → Prop} {f : α → γ} {g : β → δ}
    {texts : α → List κ} {texts' : β → List κ} {as : List α} {bs : List β}
    (h : List.Forall₂ (fun a b => R (texts a) (texts' b) (f a) (g b)) as bs) :
    InOrder R (as.flatMap texts) (bs.flatMap texts') (as.map f) (bs.map g) := by
  induction h with
  | nil => exact nil
  | cons hab _ ih => exact cons hab ih

variable {ts us : List (κ × String)} {xs ys : List String}

/-- Blank texts may be left out: nothing is quoted in them. -/
theorem filter_isBlankText (h : InOrder Framed ts us xs ys) :
    InOrder Framed ts us (xs.filter fun x => !isBlankText x)
      (ys.filter fun y => !isBlankText y) := by
  induction h with
  | nil => exact nil
  | @cons _ _ _ _ x y _ _ hxy _ ih =>
    rw [List.filter_cons, List.filter_cons, ← hxy.isBlankText_eq]
    -- the two texts are dropped together, and nothing quoted is lost with them
    cases hblank : isBlankText x with
    | false => exact cons hxy ih
    | true =>
      obtain ⟨rfl, rfl⟩ := hxy.eq_nil_of_isBlankText hblank
      exact ih

/-- Texts with one frame each may be joined. -/
theorem intercalate (h : InOrder Framed ts us xs ys) (sep : String) :
    Framed ts us (sep.intercalate xs) (sep.intercalate ys) := by
  induction h with
  | nil => exact .fixed _
  | cons hxy hrest ih =>
    cases hrest with
    | nil =>
      rw [String.intercalate_singleton, String.intercalate_singleton, List.append_nil,
        List.append_nil]
      exact hxy
    | cons _ _ =>
      rw [String.intercalate_cons_cons, String.intercalate_cons_cons]
      have hsep := hxy.append (.fixed sep)
      rw [List.append_nil, List.append_nil] at hsep
      exact hsep.append ih

end InOrder

end AgentCanvas.Text
