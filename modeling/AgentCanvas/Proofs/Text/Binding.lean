import AgentCanvas.Proofs.Text.Mentions

/-!
# Names bound by lines

Which names a given line can bind. A name without blanks is read off the line: it ends an import, it
stands between the word that begins a function and the bracket behind it, or it is the first word of
an assignment.

## Key definitions

- `Text.boundNames`: the names that can be read off a line in this way.

## Key results

- `Text.Binds.mem_boundNames`: a line binds no other name.
-/

namespace AgentCanvas.Text

/-- The first word of an assignment. -/
def assignedNames (line : List Char) : List (List Char) :=
  let code := line.dropWhile isBlank
  if ["= ", " = "].any fun sign => sign.toList.isPrefixOf (code.dropWhile isNameChar) then
    [code.takeWhile isNameChar]
  else []

/-- The names that a line imports, names a function or gives a value to. -/
def boundNames (line : List Char) : List (List Char) :=
  let imported := ["import ", "from "].filterMap fun front =>
    (line.dropPrefix? front.toList).map (·.rtakeWhile isNameChar)
  let functions := ["def ", "async def "].filterMap fun front =>
    (line.dropPrefix? front.toList).map (·.takeWhile isNameChar)
  imported ++ functions ++ assignedNames line

variable {name : String}

/-! ## Reading names -/

theorem dropPrefix?_toList_append (front rest : String) :
    (front ++ rest).toList.dropPrefix? front.toList = some rest.toList := by
  rw [String.toList_append, List.dropPrefix?_append_of_beq _ (BEq.refl _)]

/-- A name ends at a character that belongs to no name. -/
theorem takeWhile_isNameChar_append (h : IsNameText name) {c : Char} (hc : isNameChar c = false)
    (rest : List Char) : (name.toList ++ c :: rest).takeWhile isNameChar = name.toList := by
  rw [List.takeWhile_append_of_pos h, List.takeWhile_cons_of_neg (by simp [hc]), List.append_nil]

theorem dropWhile_isNameChar_append (h : IsNameText name) {c : Char} (hc : isNameChar c = false)
    (rest : List Char) : (name.toList ++ c :: rest).dropWhile isNameChar = c :: rest := by
  rw [List.dropWhile_append_of_pos h, List.dropWhile_cons_of_neg (by simp [hc])]

/-- Names that end at characters that belong to no name are read off what they are followed by. -/
theorem isNameText_append_inj {other : String} (h : IsNameText name) (hother : IsNameText other)
    {c d : Char} (hc : isNameChar c = false) (hd : isNameChar d = false) {rest after : List Char}
    (heq : name.toList ++ c :: rest = other.toList ++ d :: after) :
    name = other ∧ c :: rest = d :: after := by
  have hname := congrArg (List.takeWhile isNameChar) heq
  have hrest := congrArg (List.dropWhile isNameChar) heq
  rw [takeWhile_isNameChar_append h hc, takeWhile_isNameChar_append hother hd] at hname
  rw [dropWhile_isNameChar_append h hc, dropWhile_isNameChar_append hother hd] at hrest
  exact ⟨String.toList_injective hname, hrest⟩

/-- A name begins behind a character that belongs to no name. -/
theorem rtakeWhile_append_isNameChar (h : IsNameText name) {c : Char} (hc : isNameChar c = false)
    (front : List Char) : (front ++ c :: name.toList).rtakeWhile isNameChar = name.toList := by
  -- from behind, the name comes first
  have hreverse : ∀ c ∈ name.toList.reverse, isNameChar c := fun c hmem =>
    h c (List.mem_reverse.mp hmem)
  rw [List.rtakeWhile, List.reverse_append, List.reverse_cons, List.append_assoc,
    List.takeWhile_append_of_pos hreverse, List.singleton_append,
    List.takeWhile_cons_of_neg (by simp [hc]), List.append_nil, List.reverse_reverse]

/-! ## Bound names -/

/-- The first word of an assignment is the name that is given a value. -/
theorem mem_assignedNames {margin : String} (hmargin : isBlankText margin)
    (hname : IsNameText name) (hblank : ∀ c ∈ name.toList, isBlank c = false) (value : String) :
    name.toList ∈ assignedNames (margin ++ name ++ " = " ++ value).toList := by
  have hsplit : (margin ++ name ++ " = " ++ value).toList =
      margin.toList ++ (name.toList ++ ' ' :: '=' :: ' ' :: value.toList) := by
    simp [String.toList_append]
  have hmargin : ∀ c ∈ margin.toList, isBlank c := List.all_eq_true.mp hmargin
  rw [hsplit, assignedNames, List.dropWhile_append_of_pos hmargin]
  cases hchars : name.toList with
  -- without a name, the blank in front of the equals sign belongs to the margin
  | nil => exact List.mem_singleton_self _
  | cons first rest =>
    have hfirst : isBlank first = false := hblank first (by rw [hchars]; exact List.mem_cons_self)
    rw [List.cons_append, List.dropWhile_cons_of_neg (by simp [hfirst]), ← List.cons_append,
      ← hchars, takeWhile_isNameChar_append hname (by decide),
      dropWhile_isNameChar_append hname (by decide)]
    exact List.mem_singleton_self _

/-- A line binds no other names than those that are read off it. -/
theorem Binds.mem_boundNames {line : String} (h : Binds line name) (hname : IsNameText name)
    (hblank : ∀ c ∈ name.toList, isBlank c = false) : name.toList ∈ boundNames line.toList := by
  simp only [boundNames, List.mem_append, List.mem_filterMap, Option.map_eq_some_iff]
  cases h with
  | package =>
    refine .inl (.inl ⟨"import ", by simp, name.toList, dropPrefix?_toList_append _ _, ?_⟩)
    exact List.rtakeWhile_eq_self_iff.mpr hname
  | member package =>
    have hname : (package ++ (" import " ++ name)).toList.rtakeWhile isNameChar = name.toList := by
      have hsplit : (package ++ (" import " ++ name)).toList =
          (package.toList ++ " import".toList) ++ ' ' :: name.toList := by
        simp [String.toList_append]
      rw [hsplit, rtakeWhile_append_isNameChar hname (by decide)]
    refine .inl (.inl ⟨"from ", by simp, (package ++ (" import " ++ name)).toList, ?_, hname⟩)
    rw [String.append_assoc, String.append_assoc, dropPrefix?_toList_append]
  | function front _ rest hfront =>
    have hname : (name ++ ("(" ++ rest)).toList.takeWhile isNameChar = name.toList := by
      rw [String.toList_append, String.toList_append]
      exact takeWhile_isNameChar_append hname (by decide) rest.toList
    refine .inl (.inr ⟨front ++ "def ", ?_, (name ++ ("(" ++ rest)).toList, ?_, hname⟩)
    · rcases List.mem_pair.mp hfront with rfl | rfl <;> simp
    · rw [String.append_assoc, String.append_assoc, dropPrefix?_toList_append]
  | «variable» margin _ value hmargin => exact .inr (mem_assignedNames hmargin hname hblank value)

end AgentCanvas.Text
