import AgentCanvas.Proofs.ForStd.List
import AgentCanvas.Proofs.Program.Name

/-!
# Slugs and the names made from them

A slug is its own slug, and the texts of which this holds can be told by their characters: they are
over the characters of slugs, and no underscore stands at their end unless there is nothing else. A
name made from a slug may end with an underscore or begin with a further one, but it leads back to
itself: what its slug loses at the end is put there again.

## Key definitions

- `IsTrimmed`: no underscore at the end, unless there is nothing else.

## Key results

- `slug_eq_self_iff`, `slug_slug`: which texts are their own slugs.
- `slug_eq_empty_iff`: only the empty text has an empty slug.
- `slug_normalForm`: what slugs look like, and that all texts that look so are slugs.
- `nameOfSlug_cases`: what becomes of a slug when it is made a name.
- `isName_nameOfSlug_iff`, `nameOfSlug_slug_nameOfSlug`: names made from slugs are legal and lead
  back to themselves.
- `names_legal_and_stable`: the names of agents and tools are legal and stable.
-/

namespace AgentCanvas

/-! ## Lower case -/

/-- No character is lost in lower case. -/
theorem Text.lowerChar_ne_nil (c : Char) : Text.lowerChar c ≠ [] := by
  have hexpansions : ∀ entry ∈ Text.lowerExpansions, entry.2 ≠ [] := by decide
  unfold Text.lowerChar
  split
  next => exact List.cons_ne_nil _ _
  next =>
    unfold Text.mapCase
    split
    next codes hcodes => simpa using hexpansions _ (List.mem_of_lookup_eq_some hcodes)
    next => split <;> exact List.cons_ne_nil _ _

theorem Text.lower_eq_empty_iff {s : String} : Text.lower s = "" ↔ s = "" := by
  have hlist (before cs : List Char) : Text.lowerAfter before cs = [] ↔ cs = [] := by
    cases cs with
    | nil => simp [Text.lowerAfter]
    | cons c rest =>
      rw [Text.lowerAfter]
      split <;> simp [Text.lowerChar_ne_nil]
  rw [Text.lower, ← String.toList_inj, ← String.toList_inj, String.toList_ofList,
    String.toList_empty, hlist]

/-- The characters of slugs are in lower case already. -/
theorem lowerChar_of_isSlugChar {c : Char} (h : isSlugChar c ∨ c = '_') :
    c ≠ 'Σ' ∧ Text.lowerChar c = [c] := by
  have hcode : c.toNat < 128 ∧ ¬(65 ≤ c.toNat ∧ c.toNat ≤ 90) := by
    rcases h with h | rfl
    · rw [isSlugChar_iff] at h
      omega
    · decide
  have hlower : c.toLower = c :=
    dif_neg (show ¬(c.val ≥ 'A'.val ∧ c.val ≤ 'Z'.val) from hcode.2)
  constructor
  · rintro rfl
    exact absurd hcode.1 (by decide)
  · rw [Text.lowerChar, if_pos hcode.1, hlower]

theorem lower_of_isSlug {s : String} (h : isSlug s.toList) : Text.lower s = s := by
  have hlist (before cs : List Char) (hcs : isSlug cs) : Text.lowerAfter before cs = cs := by
    induction cs generalizing before with
    | nil => rfl
    | cons c rest ih =>
      obtain ⟨hc, hrest⟩ := List.forall_mem_cons.mp (isSlug_iff.mp hcs)
      obtain ⟨hsigma, hlower⟩ := lowerChar_of_isSlugChar hc
      rw [Text.lowerAfter, if_neg hsigma, hlower, ih _ (isSlug_iff.mpr hrest)]
      rfl
  rw [Text.lower, hlist _ _ h, String.ofList_toList]

/-! ## Underscores at the end -/

/-- No underscore stands at the end, unless there is nothing else. -/
def IsTrimmed (cs : List Char) : Prop :=
  cs.getLast? ≠ some '_' ∨ ∀ c ∈ cs, c = '_'

/-- Where there are only underscores, none is cut. -/
theorem cutUnderscores_of_forall {cs : List Char} (h : ∀ c ∈ cs, c = '_') :
    cutUnderscores cs = cs := by
  have hnil : Text.dropEndWhile (· == '_') cs = [] :=
    List.rdropWhile_eq_nil_iff.mpr fun c hc => beq_iff_eq.mpr (h c hc)
  simp only [cutUnderscores, hnil, List.isEmpty_nil, if_true]

/-- Where there is anything else, all underscores at the end are cut. -/
theorem cutUnderscores_of_exists {cs : List Char} (h : ∃ c ∈ cs, c ≠ '_') :
    cutUnderscores cs = cs.rdropWhile (· == '_') := by
  have hne : cs.rdropWhile (· == '_') ≠ [] := by
    rw [ne_eq, List.rdropWhile_eq_nil_iff]
    obtain ⟨c, hc, hunderscore⟩ := h
    exact fun hall => hunderscore (beq_iff_eq.mp (hall c hc))
  exact if_neg (fun hempty => hne (List.isEmpty_iff.mp hempty))

private theorem exists_of_not_forall {cs : List Char} (h : ¬∀ c ∈ cs, c = '_') :
    ∃ c ∈ cs, c ≠ '_' := by
  simpa using h

/-- What is left when underscores are cut is trimmed. -/
theorem isTrimmed_cutUnderscores (cs : List Char) : IsTrimmed (cutUnderscores cs) := by
  by_cases hall : ∀ c ∈ cs, c = '_'
  · rw [cutUnderscores_of_forall hall]
    exact .inr hall
  · rw [cutUnderscores_of_exists (exists_of_not_forall hall)]
    refine .inl fun hlast => ?_
    have hne : cs.rdropWhile (· == '_') ≠ [] := fun hnil => by simp [hnil] at hlast
    rw [List.getLast?_eq_some_getLast hne, Option.some.injEq] at hlast
    exact List.rdropWhile_last_not _ _ hne (beq_iff_eq.mpr hlast)

/-- A trimmed text loses no underscore. -/
theorem cutUnderscores_of_isTrimmed {cs : List Char} (h : IsTrimmed cs) :
    cutUnderscores cs = cs := by
  by_cases hall : ∀ c ∈ cs, c = '_'
  · exact cutUnderscores_of_forall hall
  · rw [cutUnderscores_of_exists (exists_of_not_forall hall), List.rdropWhile_eq_self_iff]
    intro hne hlast
    have hlast : cs.getLast? = some '_' :=
      (List.getLast?_eq_some_getLast hne).trans (congrArg some (beq_iff_eq.mp hlast))
    exact h.elim (fun hend => hend hlast) hall

/-- An underscore put at the end is cut again, if there is anything else. -/
theorem cutUnderscores_concat {cs : List Char} (h : ∃ c ∈ cs, c ≠ '_') :
    cutUnderscores (cs ++ ['_']) = cutUnderscores cs := by
  obtain ⟨c, hc, hunderscore⟩ := h
  rw [cutUnderscores_of_exists ⟨c, hc, hunderscore⟩,
    cutUnderscores_of_exists ⟨c, List.mem_append_left _ hc, hunderscore⟩]
  exact List.rdropWhile_concat_pos _ _ _ rfl

theorem cutUnderscores_eq_nil_iff {cs : List Char} : cutUnderscores cs = [] ↔ cs = [] := by
  constructor
  · intro h
    by_cases hall : ∀ c ∈ cs, c = '_'
    · rwa [cutUnderscores_of_forall hall] at h
    · rw [cutUnderscores_of_exists (exists_of_not_forall hall), List.rdropWhile_eq_nil_iff] at h
      exact absurd (fun c hc => beq_iff_eq.mp (h c hc)) hall
  · rintro rfl
    rfl

/-! ## Slugs -/

/-- A text over the characters of slugs loses underscores at its end at most. -/
theorem slug_of_isSlug {s : String} (h : isSlug s.toList) :
    slug s = String.ofList (cutUnderscores s.toList) := by
  have hmap : (s.toList.map fun c => if isSlugChar c then c else '_') = s.toList := by
    refine (List.map_congr_left fun c hc => ?_).trans (List.map_id _)
    rcases isSlug_iff.mp h c hc with hc | rfl
    · exact if_pos hc
    · rfl
  rw [slug, lower_of_isSlug h, hmap]

theorem isTrimmed_slug (name : String) : IsTrimmed (slug name).toList := by
  rw [slug, String.toList_ofList]
  exact isTrimmed_cutUnderscores _

/-- Exactly the trimmed texts over the characters of slugs are their own slugs. -/
theorem slug_eq_self_iff {s : String} : slug s = s ↔ isSlug s.toList ∧ IsTrimmed s.toList := by
  constructor
  · intro h
    rw [← h]
    exact ⟨isSlug_slug s, isTrimmed_slug s⟩
  · rintro ⟨hslug, htrimmed⟩
    rw [slug_of_isSlug hslug, cutUnderscores_of_isTrimmed htrimmed, String.ofList_toList]

theorem slug_slug (name : String) : slug (slug name) = slug name :=
  slug_eq_self_iff.mpr ⟨isSlug_slug name, isTrimmed_slug name⟩

/-- Only the empty text has an empty slug. -/
theorem slug_eq_empty_iff {name : String} : slug name = "" ↔ name = "" := by
  rw [← Text.lower_eq_empty_iff (s := name), slug, ← String.toList_inj, String.toList_ofList,
    String.toList_empty, cutUnderscores_eq_nil_iff, List.map_eq_nil_iff, String.toList_eq_nil_iff]

/-- The characters of slugs, one by one. -/
theorem isSlug_iff_ranges {cs : List Char} : isSlug cs ↔
    ∀ c ∈ cs, 'a' ≤ c ∧ c ≤ 'z' ∨ '0' ≤ c ∧ c ≤ '9' ∨ c = '_' := by
  simp only [isSlug_iff, isSlugChar, Bool.or_eq_true, Bool.and_eq_true, decide_eq_true_eq, or_assoc]

/-- Whatever a slug is made from, it is over lower-case ASCII letters, digits and underscores, it is
empty for the empty text only, it ends with an underscore only if it has nothing else, and it is its
own slug. The texts that are their own slugs are exactly the trimmed ones over these characters, and
they are all the slugs there are. -/
theorem slug_normalForm :
    (∀ name,
      (∀ c ∈ (slug name).toList, 'a' ≤ c ∧ c ≤ 'z' ∨ '0' ≤ c ∧ c ≤ '9' ∨ c = '_') ∧
      (slug name = "" ↔ name = "") ∧
      ((slug name).toList.getLast? = some '_' → ∀ c ∈ (slug name).toList, c = '_') ∧
      slug (slug name) = slug name) ∧
    ∀ s,
      (slug s = s ↔
        (∀ c ∈ s.toList, 'a' ≤ c ∧ c ≤ 'z' ∨ '0' ≤ c ∧ c ≤ '9' ∨ c = '_') ∧
        (s.toList.getLast? ≠ some '_' ∨ ∀ c ∈ s.toList, c = '_')) ∧
      (slug s = s ↔ ∃ name, slug name = s) := by
  refine ⟨fun name => ⟨isSlug_iff_ranges.mp (isSlug_slug name), slug_eq_empty_iff, fun hlast => ?_,
    slug_slug name⟩, fun s => ⟨?_, fun h => ⟨s, h⟩, ?_⟩⟩
  · exact (isTrimmed_slug name).resolve_left (not_not_intro hlast)
  · rw [← isSlug_iff_ranges]
    exact slug_eq_self_iff
  · rintro ⟨name, rfl⟩
    exact slug_slug name

/-- The sign of Kelvin becomes a letter, a capital I with a dot becomes two characters, and what has
neither letters nor digits becomes underscores. -/
theorem slug_normalForm_kelvin :
    slug "\u212A9 \u0130!" = "k9_i" ∧ slug "k9_i" = "k9_i" ∧
    slug "\u0130!" = "i" ∧ slug "?!" = "__" ∧
    (slug "?!").toList.getLast? = some '_' ∧ (∀ c ∈ (slug "?!").toList, c = '_') := by
  have hkelvin : slug "\u212A9 \u0130!" = "k9_i" := by decide
  have hlast : (slug "?!").toList.getLast? = some '_' := by decide
  refine ⟨hkelvin, ?_, by decide, by decide, hlast, (slug_normalForm.1 "?!").2.2.1 hlast⟩
  exact (slug_normalForm.2 "k9_i").2.mpr ⟨_, hkelvin⟩

/-! ## Names made from slugs -/

theorem isIdentifierContinue_of_isSlugChar {c : Char} (h : isSlugChar c ∨ c = '_') :
    Text.isIdentifierContinue c := by
  rcases h with h | rfl
  · have hcode := isSlugChar_iff.mp h
    rw [Text.isIdentifierContinue, if_pos (by omega), isAlphanum_of_isSlugChar h]
    rfl
  · decide

theorem isIdentifierStart_of_isSlugChar {c : Char} (h : isSlugChar c ∨ c = '_')
    (hdigit : c.isDigit = false) : Text.isIdentifierStart c := by
  rcases h with h | rfl
  · have hcode := isSlugChar_iff.mp h
    -- a slug character that is no digit is a letter
    have halpha : c.isAlpha := by
      have halphanum := isAlphanum_of_isSlugChar h
      rwa [Char.isAlphanum, hdigit, Bool.or_false] at halphanum
    rw [Text.isIdentifierStart, if_pos (by omega), halpha]
    rfl
  · decide

/-- Whether a text begins with a digit. -/
def beginsWithDigit (s : String) : Bool :=
  s.toList.head?.any Char.isDigit

/-- A text over the characters of slugs is an identifier if it is not empty and does not begin with
a digit. -/
theorem isIdentifier_of_isSlug {s : String} (h : isSlug s.toList) (hne : s ≠ "")
    (hdigit : beginsWithDigit s = false) : Text.isIdentifier s := by
  unfold Text.isIdentifier
  cases hcs : s.toList with
  | nil => exact absurd (String.toList_eq_nil_iff.mp hcs) hne
  | cons c rest =>
    rw [beginsWithDigit, hcs, List.head?_cons, Option.any_some] at hdigit
    rw [hcs] at h
    obtain ⟨hc, hrest⟩ := List.forall_mem_cons.mp (isSlug_iff.mp h)
    have hstart := isIdentifierStart_of_isSlugChar hc hdigit
    have hcontinue : rest.all Text.isIdentifierContinue := List.all_eq_true.mpr fun d hd =>
      isIdentifierContinue_of_isSlugChar (hrest d hd)
    simp only [hstart, hcontinue, Bool.and_self]

/-- Reserved words neither begin nor end with an underscore. -/
theorem ne_underscore_of_isReserved {word : String} (h : Text.isReserved word) :
    word.toList.head? ≠ some '_' ∧ word.toList.getLast? ≠ some '_' := by
  have hwords : ∀ word ∈ Text.reservedWords,
      word.toList.head? ≠ some '_' ∧ word.toList.getLast? ≠ some '_' := by decide
  exact hwords word (by simpa [Text.isReserved] using h)

theorem isReserved_underscore_append (s : String) : Text.isReserved ("_" ++ s) = false := by
  rw [Bool.eq_false_iff]
  intro h
  exact (ne_underscore_of_isReserved h).1 (by rw [String.toList_append]; rfl)

theorem isReserved_append_underscore (s : String) : Text.isReserved (s ++ "_") = false := by
  rw [Bool.eq_false_iff]
  intro h
  refine (ne_underscore_of_isReserved h).2 ?_
  rw [String.toList_append]
  exact List.getLast?_concat

/-- A slug that is made a name gets an underscore in front of it if it begins with a digit, one
behind it if it is a reserved word, and stays as it is otherwise. -/
theorem nameOfSlug_cases (s : String) :
    (beginsWithDigit s ∧ nameOfSlug s = "_" ++ s) ∨
    (beginsWithDigit s = false ∧ Text.isReserved s ∧ nameOfSlug s = s ++ "_") ∨
    (beginsWithDigit s = false ∧ Text.isReserved s = false ∧ nameOfSlug s = s) := by
  have hguard : guardDigit s.toList = if beginsWithDigit s then '_' :: s.toList else s.toList := by
    rw [beginsWithDigit]
    cases s.toList <;> rfl
  have hunderscore : String.ofList ('_' :: s.toList) = "_" ++ s := by
    rw [← String.toList_inj, String.toList_ofList, String.toList_append]
    rfl
  unfold nameOfSlug
  cases hdigit : beginsWithDigit s with
  | true => simp [hguard, hdigit, hunderscore, isReserved_underscore_append]
  | false => cases hreserved : Text.isReserved s <;> simp [hguard, hdigit, hreserved]

/-- A slug that is not empty is made a legal name. -/
theorem isName_nameOfSlug {s : String} (h : isSlug s.toList) (hne : s ≠ "") :
    Text.isName (nameOfSlug s) := by
  have hslug := isSlug_nameOfSlug h
  rw [Text.isName, Bool.and_eq_true, Bool.not_eq_true']
  rcases nameOfSlug_cases s with ⟨hdigit, hname⟩ | ⟨hdigit, hreserved, hname⟩ |
    ⟨hdigit, hreserved, hname⟩ <;> rw [hname] at hslug ⊢
  · refine ⟨isIdentifier_of_isSlug hslug (by simp) ?_, isReserved_underscore_append s⟩
    rw [beginsWithDigit, String.toList_append]
    rfl
  · refine ⟨isIdentifier_of_isSlug hslug (by simp) ?_, isReserved_append_underscore s⟩
    -- what it begins with is what the reserved word begins with
    rw [beginsWithDigit] at hdigit ⊢
    cases hcs : s.toList with
    | nil => exact absurd (String.toList_eq_nil_iff.mp hcs) hne
    | cons c rest =>
      rw [hcs] at hdigit
      rwa [String.toList_append, hcs]
  · exact ⟨isIdentifier_of_isSlug hslug hne hdigit, hreserved⟩

/-- A name made from a display name is legal exactly if the display name is not empty. -/
theorem isName_nameOfSlug_iff {name : String} :
    Text.isName (nameOfSlug (slug name)) ↔ name ≠ "" := by
  constructor
  · rintro h rfl
    revert h
    decide
  · intro hne
    exact isName_nameOfSlug (isSlug_slug name) (mt slug_eq_empty_iff.mp hne)

/-- The underscore in front of a digit stays, and nothing else is needed. -/
theorem nameOfSlug_slug_underscore_append {s : String} (h : isSlug ("_" ++ s).toList)
    (htrimmed : IsTrimmed s.toList) (hdigit : beginsWithDigit s) :
    nameOfSlug (slug ("_" ++ s)) = "_" ++ s := by
  have hself : slug ("_" ++ s) = "_" ++ s := by
    refine slug_eq_self_iff.mpr ⟨h, .inl ?_⟩
    -- what it ends with is what the slug ends with, and that is no underscore
    rw [String.toList_append]
    rw [beginsWithDigit] at hdigit
    cases hcs : s.toList with
    | nil =>
      rw [hcs] at hdigit
      cases hdigit
    | cons c rest =>
      rw [hcs] at htrimmed hdigit
      rcases htrimmed with hlast | hall
      · exact hlast
      · rw [hall c List.mem_cons_self] at hdigit
        cases hdigit
  rw [hself]
  rcases nameOfSlug_cases ("_" ++ s) with ⟨hbegins, -⟩ | ⟨-, hreserved, -⟩ | ⟨-, -, hname⟩
  · rw [beginsWithDigit, String.toList_append] at hbegins
    cases hbegins
  · rw [isReserved_underscore_append] at hreserved
    cases hreserved
  · exact hname

/-- The underscore behind a reserved word is cut in the slug. -/
theorem slug_append_underscore {s : String} (h : isSlug (s ++ "_").toList)
    (htrimmed : IsTrimmed s.toList) (hreserved : Text.isReserved s) : slug (s ++ "_") = s := by
  have hletter : ∃ c ∈ s.toList, c ≠ '_' := by
    cases hcs : s.toList with
    | nil => exact absurd hreserved (by rw [String.toList_eq_nil_iff.mp hcs]; decide)
    | cons c rest =>
      have hhead := (ne_underscore_of_isReserved hreserved).1
      rw [hcs, List.head?_cons] at hhead
      exact ⟨c, List.mem_cons_self, fun hc => hhead (congrArg some hc)⟩
  rw [slug_of_isSlug h, String.toList_append]
  show String.ofList (cutUnderscores (s.toList ++ ['_'])) = s
  rw [cutUnderscores_concat hletter, cutUnderscores_of_isTrimmed htrimmed, String.ofList_toList]

/-- A name made from a display name leads back to itself. -/
theorem nameOfSlug_slug_nameOfSlug (name : String) :
    nameOfSlug (slug (nameOfSlug (slug name))) = nameOfSlug (slug name) := by
  obtain ⟨hslug, htrimmed⟩ := slug_eq_self_iff.mp (slug_slug name)
  have hnamed := isSlug_nameOfSlug hslug
  generalize slug name = s at *
  rcases nameOfSlug_cases s with ⟨hdigit, hname⟩ | ⟨-, hreserved, hname⟩ | ⟨-, -, hname⟩ <;>
    rw [hname] at hnamed ⊢
  · exact nameOfSlug_slug_underscore_append hnamed htrimmed hdigit
  · rw [slug_append_underscore hnamed htrimmed hreserved, hname]
  · rw [slug_eq_self_iff.mpr ⟨hslug, htrimmed⟩, hname]

/-! ## Names of agents and tools -/

theorem orElse_ne_empty_iff {text other : String} :
    orElse text other ≠ "" ↔ text ≠ "" ∨ other ≠ "" := by
  by_cases htext : text = "" <;> simp [orElse, htext]

/-- Where a default stands in for an empty display name, the name that is made still leads back to
itself. -/
theorem nameOfSlug_slug_orElse (text other : String) :
    nameOfSlug (slug (orElse (nameOfSlug (slug (orElse text other))) other)) =
      nameOfSlug (slug (orElse text other)) := by
  by_cases hempty : orElse text other = ""
  · obtain ⟨rfl, rfl⟩ : text = "" ∧ other = "" := by
      by_contra hne
      exact orElse_ne_empty_iff.mpr (not_and_or.mp hne) hempty
    decide
  -- the name is not empty, so the default does not stand in for it
  · have hname : nameOfSlug (slug (orElse text other)) ≠ "" := by
      intro hnil
      have hlegal := isName_nameOfSlug_iff.mpr hempty
      rw [hnil] at hlegal
      revert hlegal
      decide
    rw [orElse, if_neg hname, nameOfSlug_slug_nameOfSlug]

theorem Agent.isName_identifier_iff (d : Defaults) (a : Agent) :
    Text.isName (a.identifier d) ↔ a.displayName d ≠ "" :=
  isName_nameOfSlug_iff

theorem Agent.identifier_identifier (d : Defaults) (a : Agent) :
    ({ a with name := a.identifier d } : Agent).identifier d = a.identifier d := by
  simp only [Agent.identifier, Agent.displayName]
  exact nameOfSlug_slug_orElse a.name d.agentName

theorem Tool.functionName_of_not_isName {d : Defaults} {t : Tool} (h : ¬Text.isName t.name) :
    t.functionName d = nameOfSlug (slug (orElse t.name d.toolName)) :=
  if_neg h

theorem Tool.isName_functionName_iff (d : Defaults) (t : Tool) :
    Text.isName (t.functionName d) ↔ t.name ≠ "" ∨ d.toolName ≠ "" := by
  by_cases hown : Text.isName t.name
  · have hname : t.functionName d = t.name := if_pos hown
    rw [hname]
    refine iff_of_true hown (.inl fun hnil => ?_)
    rw [hnil] at hown
    revert hown
    decide
  · rw [functionName_of_not_isName hown, isName_nameOfSlug_iff, orElse_ne_empty_iff]

theorem Tool.functionName_functionName (d : Defaults) (t : Tool) :
    ({ t with name := t.functionName d } : Tool).functionName d = t.functionName d := by
  by_cases hlegal : Text.isName (t.functionName d)
  · exact if_pos hlegal
  -- a name that is not legal was made, and it is made once more
  · have hown : ¬Text.isName t.name := by
      intro hown
      have hname : t.functionName d = t.name := if_pos hown
      exact hlegal (hname ▸ hown)
    have hagain : ({ t with name := t.functionName d } : Tool).functionName d =
        nameOfSlug (slug (orElse (t.functionName d) d.toolName)) := if_neg hlegal
    rw [hagain, functionName_of_not_isName hown]
    exact nameOfSlug_slug_orElse t.name d.toolName

/-- The variable of an agent is a legal name exactly if the agent's display name is not empty, and
the name of a tool's function exactly if the tool or the defaults give one. Whether or not a name
had to be changed, it stays the same when it is given to the agent or the tool in place of its
own. -/
theorem names_legal_and_stable (d : Defaults) :
    (∀ a : Agent, (Text.isName (a.identifier d) ↔ a.displayName d ≠ "") ∧
      ({ a with name := a.identifier d } : Agent).identifier d = a.identifier d) ∧
    (∀ t : Tool, (Text.isName (t.functionName d) ↔ t.name ≠ "" ∨ d.toolName ≠ "") ∧
      ({ t with name := t.functionName d } : Tool).functionName d = t.functionName d) :=
  ⟨fun a => ⟨a.isName_identifier_iff d, a.identifier_identifier d⟩,
    fun t => ⟨t.isName_functionName_iff d, t.functionName_functionName d⟩⟩

end AgentCanvas
