import AgentCanvas.Proofs.Text.Framed
import AgentCanvas.Proofs.Text.Mentions

/-!
# Lines whose literals are closed

A line of a program is read character by character: quotation marks begin and end literals, and in
a literal a backslash keeps the next character from ending it. Lines made of names and quoted texts
end outside of literals, and of the control characters only those can stand in them that are written
as they are.

## Key definitions

- `Text.Reading.step?`: where one more character takes the reader of a line.
- `Text.Closes`: lines that end outside of literals.
- `Text.Sealed`: lines that end outside of literals and say nothing unprinted but what some texts
  say.

## Key results

- `Text.Sealed.append`, `Text.sealed_quote`, `Text.IsNameText.sealed`: sealed lines are put together
  from sealed pieces.
- `Text.Framed.mem_of_mem`: a character of a quoted text that is written as it is stands in what
  quotes the text.
-/

namespace AgentCanvas.Text

deriving instance DecidableEq for Reading

/-- Where one more character takes the reader of a line. Outside of literals a backslash protects
nothing, so it is refused there. -/
def Reading.step? : Reading → Char → Option Reading
  | .code, c => if c = '"' then some .literal else if c = '\\' then none else some .code
  | .literal, c =>
    if c = '"' then some .code else if c = '\\' then some .escaped else some .literal
  | .escaped, _ => some .literal

/-- A line, read from its beginning, ends outside of literals. -/
def Closes (line : String) : Prop :=
  line.toList.foldlM Reading.step? .code = some .code

/-- A line ends outside of literals, and every control character in it stands in one of the given
texts and is not escaped. -/
structure Sealed (texts : List String) (line : String) : Prop where
  closes : Closes line
  printed : ∀ c ∈ line.toList, ' ' ≤ c ∨ escape c = [c] ∧ ∃ t ∈ texts, c ∈ t.toList

variable {texts others : List String} {s t line : String}

/-! ## Literals -/

/-- A written character does not end a literal. -/
theorem foldlM_escape (c : Char) :
    (escape c).foldlM Reading.step? .literal = some .literal := by
  unfold escape
  split_ifs with hslash hquote <;> simp [Reading.step?, *]

/-- A literal is closed by its last character. -/
theorem closes_quote (t : String) : Closes (quote t) := by
  have hinside (cs : List Char) :
      (cs.flatMap escape).foldlM Reading.step? .literal = some .literal := by
    -- behind each written character the reader is back in the literal
    induction cs with
    | nil => rfl
    | cons c rest ih =>
      rw [List.flatMap_cons, List.foldlM_append, foldlM_escape]
      exact ih
  have hopen : Reading.step? .code '"' = some .literal := rfl
  have hclose : ['"'].foldlM Reading.step? .literal = some .code := rfl
  rw [Closes, toList_quote, List.foldlM_cons, hopen]
  show (t.toList.flatMap escape ++ ['"']).foldlM Reading.step? .literal = some .code
  rw [List.foldlM_append, hinside]
  exact hclose

/-- An escaped character is written with others, none of which is a control character. -/
theorem printed_of_mem_escape {c d : Char} (h : d ∈ escape c) :
    ' ' ≤ d ∨ escape d = [d] ∧ d = c := by
  by_cases hself : escape c = [c]
  · rw [hself, List.mem_singleton] at h
    exact .inr ⟨h ▸ hself, h⟩
  · -- the other characters are written as a backslash and a letter or mark
    have hpair : ∃ mark, escape c = ['\\', mark] ∧ ' ' ≤ mark := by
      unfold escape at hself ⊢
      split_ifs at hself ⊢
      · exact ⟨'\\', rfl, by decide⟩
      · exact ⟨'"', rfl, by decide⟩
      · exact ⟨'n', rfl, by decide⟩
      · exact ⟨'r', rfl, by decide⟩
      · exact ⟨'t', rfl, by decide⟩
      · exact absurd rfl hself
    obtain ⟨mark, hmark, hprinted⟩ := hpair
    rw [hmark, List.mem_cons, List.mem_singleton] at h
    rcases h with rfl | rfl
    · exact .inl (by decide)
    · exact .inl hprinted

theorem sealed_quote (t : String) : Sealed [t] (quote t) := by
  refine ⟨closes_quote t, fun c hc => ?_⟩
  rw [toList_quote] at hc
  simp only [List.mem_cons, List.mem_append, List.mem_flatMap, List.not_mem_nil, or_false] at hc
  rcases hc with rfl | ⟨a, ha, hc⟩ | rfl
  · exact .inl (by decide)
  · rcases printed_of_mem_escape hc with hprinted | ⟨hself, rfl⟩
    · exact .inl hprinted
    · exact .inr ⟨hself, t, List.mem_singleton_self t, ha⟩
  · exact .inl (by decide)

/-! ## Lines -/

namespace Sealed

theorem mono (h : Sealed texts line) (hsub : texts ⊆ others) : Sealed others line := by
  refine ⟨h.closes, fun c hc => (h.printed c hc).imp_right ?_⟩
  rintro ⟨hself, t, ht, hmem⟩
  exact ⟨hself, t, hsub ht, hmem⟩

/-- Behind a sealed piece, the next one is read from its beginning. -/
theorem append (hs : Sealed texts s) (ht : Sealed texts t) : Sealed texts (s ++ t) := by
  constructor
  · rw [Closes, String.toList_append, List.foldlM_append, hs.closes]
    exact ht.closes
  · intro c hc
    rw [String.toList_append, List.mem_append] at hc
    exact hc.elim (hs.printed c) (ht.printed c)

/-- A line that is the same in every program. -/
theorem of_ofList {cs : List Char}
    (h : cs.foldlM Reading.step? .code = some .code ∧ cs.all (' ' ≤ ·)) :
    Sealed texts (String.ofList cs) := by
  constructor
  · rw [Closes, String.toList_ofList]
    exact h.1
  · intro c hc
    rw [String.toList_ofList] at hc
    exact .inl (of_decide_eq_true (List.all_eq_true.mp h.2 c hc))

end Sealed

/-- A line that quotes a text between sealed pieces, behind a margin. -/
theorem sealed_quoting {margin front back : String} (hmargin : Sealed [] margin)
    (hfront : Sealed [] front) (hback : Sealed [] back) (text : String) :
    Sealed [text] (margin ++ (front ++ quote text ++ back)) := by
  have hnone {piece : String} (h : Sealed [] piece) : Sealed [text] piece :=
    h.mono (List.nil_subset _)
  exact (hnone hmargin).append (((hnone hfront).append (sealed_quote text)).append (hnone hback))

/-! ## Names -/

/-- None of the control characters is a character of names. -/
theorem le_of_isNameChar {c : Char} (h : isNameChar c) : ' ' ≤ c := by
  have hcontrol : ∀ n < 32, isNameChar (Char.ofNat n) = false := by decide
  refine Char.not_lt.mp fun hlt => ?_
  have hname := hcontrol c.toNat hlt
  rw [Char.ofNat_toNat, h] at hname
  cases hname

/-- Names hold neither quotation marks nor backslashes nor control characters. -/
theorem IsNameText.sealed (h : IsNameText s) : Sealed [] s := by
  constructor
  · unfold Closes
    unfold IsNameText at h
    generalize s.toList = cs at h
    induction cs with
    | nil => rfl
    | cons c rest ih =>
      obtain ⟨hc, hrest⟩ := List.forall_mem_cons.mp h
      -- no character of a name leaves the code
      have hstep : Reading.step? .code c = some .code := by
        rw [Reading.step?, if_neg (ne_of_isNameChar hc (by decide)),
          if_neg (ne_of_isNameChar hc (by decide))]
      rw [List.foldlM_cons, hstep]
      exact ih hrest
  · exact fun c hc => .inl (le_of_isNameChar (h c hc))

/-- A list of names is read name by name. -/
theorem sealed_intercalate {names : List String} (h : ∀ name ∈ names, IsNameText name) :
    Sealed [] (", ".intercalate names) := by
  induction names with
  | nil => exact .of_ofList (by decide)
  | cons first rest ih =>
    obtain ⟨hfirst, hrest⟩ := List.forall_mem_cons.mp h
    cases rest with
    | nil =>
      rw [String.intercalate_singleton]
      exact hfirst.sealed
    | cons next rest =>
      rw [String.intercalate_cons_cons]
      exact (hfirst.sealed.append (.of_ofList (by decide))).append (ih hrest)

/-! ## Quoted texts -/

/-- A character of a quoted text that is not escaped stands in what quotes the text. -/
theorem Framed.mem_of_mem {κ : Type} {ts us : List (κ × String)} {x y : String}
    (h : Framed ts us x y) {text : κ × String} (htext : text ∈ ts) {c : Char}
    (hc : c ∈ text.2.toList) (hself : escape c = [c]) : c ∈ x.toList := by
  induction h with
  | fixed segment => cases htext
  | slot segment sort t u _ ih =>
    rw [String.toList_append, String.toList_append]
    rcases List.mem_cons.mp htext with rfl | htext
    · have hquote : c ∈ (quote t).toList := by
        rw [toList_quote]
        exact List.mem_cons_of_mem _ (List.mem_append_left _
          (List.mem_flatMap.mpr ⟨c, hc, hself ▸ List.mem_singleton_self c⟩))
      exact List.mem_append_left _ (List.mem_append_right _ hquote)
    · exact List.mem_append_right _ (ih htext)

end AgentCanvas.Text
