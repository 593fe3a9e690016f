import Mathlib.Data.List.Forall2
import Mathlib.Data.List.Nodup

/-!
# List lemmas for the standard library

Items of related lists, looking up keys, and searching a list that visits some of its items twice.
-/

namespace List

variable {α β : Type}

/-- Every item of the second of two related lists is related to one of the first. -/
theorem Forall₂.exists_of_mem_right {R : α → β → Prop} {as : List α} {bs : List β} {b : β}
    (h : Forall₂ R as bs) (hb : b ∈ bs) : ∃ a ∈ as, R a b := by
  induction h with
  | nil => cases hb
  | cons hab _ ih =>
    rcases mem_cons.mp hb with rfl | hb
    · exact ⟨_, mem_cons_self, hab⟩
    · obtain ⟨a, ha, hR⟩ := ih hb
      exact ⟨a, mem_cons_of_mem _ ha, hR⟩

/-- Every item of the first of two related lists is related to one of the second. -/
theorem Forall₂.exists_of_mem_left {R : α → β → Prop} {as : List α} {bs : List β} {a : α}
    (h : Forall₂ R as bs) (ha : a ∈ as) : ∃ b ∈ bs, R a b :=
  h.flip.exists_of_mem_right ha

/-- Lists that are related in two ways are related in both at once. -/
theorem Forall₂.and {R S : α → β → Prop} {as : List α} {bs : List β} (h : Forall₂ R as bs)
    (h' : Forall₂ S as bs) : Forall₂ (fun a b => R a b ∧ S a b) as bs := by
  induction h with
  | nil => exact .nil
  | cons hab _ ih =>
    cases h' with
    | cons hab' hrest => exact .cons ⟨hab, hab'⟩ (ih hrest)

/-- Related lists are empty together. -/
theorem Forall₂.isEmpty_eq {R : α → β → Prop} {as : List α} {bs : List β} (h : Forall₂ R as bs) :
    as.isEmpty = bs.isEmpty := by
  cases h <;> rfl

/-- Lists of images are related if the images are, item by item. -/
theorem forall₂_map_map_iff {γ δ : Type} {R : γ → δ → Prop} {f : α → γ} {g : β → δ} {as : List α}
    {bs : List β} :
    Forall₂ R (as.map f) (bs.map g) ↔ Forall₂ (fun a b => R (f a) (g b)) as bs := by
  rw [forall₂_map_left_iff, forall₂_map_right_iff]

/-- Items taken with their places are related if they are at any place. -/
theorem Forall₂.mapIdx {γ δ : Type} {R : γ → δ → Prop} {f : Nat → α → γ} {g : Nat → β → δ}
    {as : List α} {bs : List β}
    (h : Forall₂ (fun a b => ∀ place, R (f place a) (g place b)) as bs) :
    Forall₂ R (as.mapIdx f) (bs.mapIdx g) := by
  rw [forall₂_iff_get] at h ⊢
  refine ⟨by simp [h.1], fun place ha hb => ?_⟩
  rw [length_mapIdx] at ha hb
  simpa using h.2 place ha hb place

/-- Items taken with their places are related to others if they are at any place. -/
theorem Forall₂.mapIdx_left {γ : Type} {R : γ → β → Prop} {f : Nat → α → γ} {as : List α}
    {bs : List β} (h : Forall₂ (fun a b => ∀ place, R (f place a) b) as bs) :
    Forall₂ R (as.mapIdx f) bs := by
  rw [forall₂_iff_get] at h ⊢
  refine ⟨by simp [h.1], fun place ha hb => ?_⟩
  rw [length_mapIdx] at ha
  simpa using h.2 place ha hb place

/-- Lists whose items have the same images have the same image. -/
theorem Forall₂.map_eq {γ : Type} {f : α → γ} {g : β → γ} {as : List α} {bs : List β}
    (h : Forall₂ (fun a b => f a = g b) as bs) : as.map f = bs.map g := by
  rw [← forall₂_eq_eq_eq, forall₂_map_map_iff]
  exact h

/-- Two searches in related lists find related items, if they look for related ones. -/
theorem Forall₂.find? {R : α → β → Prop} {as : List α} {bs : List β} (h : Forall₂ R as bs)
    {p : α → Bool} {q : β → Bool} (hpq : ∀ a b, R a b → p a = q b) :
    (as.find? p = none ∧ bs.find? q = none) ∨
      ∃ a b, as.find? p = some a ∧ bs.find? q = some b ∧ R a b := by
  induction h with
  | nil => exact .inl ⟨rfl, rfl⟩
  | @cons a b _ _ hab _ ih =>
    rw [find?_cons, find?_cons, hpq a b hab]
    cases q b with
    | true => exact .inr ⟨a, b, rfl, rfl, hab⟩
    | false => exact ih

/-- Two filters keep related items of related lists, if they ask the same of related ones. -/
theorem Forall₂.filter {R : α → β → Prop} {as : List α} {bs : List β} (h : Forall₂ R as bs)
    {p : α → Bool} {q : β → Bool} (hpq : ∀ a b, R a b → p a = q b) :
    Forall₂ R (as.filter p) (bs.filter q) :=
  rel_filter (fun a b hab => Bool.coe_iff_coe.mpr (hpq a b hab)) h

/-- What is looked up is listed. -/
theorem mem_of_lookup_eq_some [BEq α] [LawfulBEq α] {entries : List (α × β)} {key : α} {value : β}
    (h : entries.lookup key = some value) : (key, value) ∈ entries := by
  obtain ⟨before, after, heq, -⟩ := lookup_eq_some_iff.mp h
  rw [heq]
  exact mem_append_right before mem_cons_self

/-- What a function makes of those items that pass a test, if it makes nothing of the others. -/
theorem forall₂_filter_filterMap {R : α → β → Prop} {p : α → Bool} {f : α → Option β}
    {as : List α} (hpass : ∀ a ∈ as, p a → ∃ b, f a = some b ∧ R a b)
    (hfail : ∀ a ∈ as, p a = false → f a = none) : Forall₂ R (as.filter p) (as.filterMap f) := by
  induction as with
  | nil => exact .nil
  | cons a rest ih =>
    obtain ⟨hpassa, hpass⟩ := forall_mem_cons.mp hpass
    obtain ⟨hfaila, hfail⟩ := forall_mem_cons.mp hfail
    have hrest := ih hpass hfail
    by_cases ha : p a
    · obtain ⟨b, hb, hR⟩ := hpassa ha
      rw [filter_cons_of_pos ha, filterMap_cons_some hb]
      exact .cons hR hrest
    · rw [filter_cons_of_neg ha, filterMap_cons_none (hfaila (by simpa using ha))]
      exact hrest

/-- A search past `l₁` may leave out items of `l₂` that it has met in `l₁` already. -/
theorem findSome?_append_filter (f : α → Option β) (p : α → Bool) {l₁ l₂ : List α}
    (h : ∀ a ∈ l₂, p a = false → a ∈ l₁) :
    (l₁ ++ l₂.filter p).findSome? f = (l₁ ++ l₂).findSome? f := by
  simp only [findSome?_append]
  cases hfound : l₁.findSome? f with
  | some b => rfl
  | none =>
    have hmiss : ∀ a ∈ l₂, p a = false → f a = none := fun a ha hp =>
      findSome?_eq_none_iff.mp hfound a (h a ha hp)
    simp only [Option.none_or]
    clear h hfound
    induction l₂ with
    | nil => rfl
    | cons a rest ih =>
      have hrest := ih fun b hb => hmiss b (mem_cons_of_mem a hb)
      cases hp : p a with
      | true => simp only [filter_cons, hp, if_true, findSome?_cons, hrest]
      | false =>
        rw [filter_cons_of_neg (by simp [hp]), findSome?_cons, hmiss a mem_cons_self hp]
        exact hrest

/-! ## Keys -/

/-- A search by key looks up where the key stands first. -/
theorem find?_eq_bind_idxOf? [DecidableEq β] (key : α → β) (as : List α) (b : β) :
    as.find? (fun a => key a = b) = ((as.map key).idxOf? b).bind (as[·]?) := by
  rw [find?_eq_bind_findIdx?_getElem?, idxOf?, findIdx?_map]
  rfl

/-- Where no two items share a key, every item is found under its key. -/
theorem find?_eq_some_iff_of_nodup_map [DecidableEq β] {key : α → β} {as : List α}
    (h : (as.map key).Nodup) {b : β} {a : α} :
    as.find? (fun a => key a = b) = some a ↔ a ∈ as ∧ key a = b := by
  constructor
  · intro hfind
    exact ⟨mem_of_find?_eq_some hfind, by simpa using find?_some hfind⟩
  · rintro ⟨ha, rfl⟩
    obtain ⟨found, hfound⟩ : ∃ found, as.find? (fun c => key c = key a) = some found :=
      Option.isSome_iff_exists.mp (find?_isSome.mpr ⟨a, ha, by simp⟩)
    have hkey : key found = key a := by simpa using find?_some hfound
    rw [hfound, inj_on_of_nodup_map h (mem_of_find?_eq_some hfound) ha hkey]

/-- Where no two items share a key, a search by key may start at the end. -/
theorem find?_reverse_of_nodup_map [DecidableEq β] {key : α → β} {as : List α}
    (h : (as.map key).Nodup) (b : β) :
    as.reverse.find? (fun a => key a = b) = as.find? (fun a => key a = b) := by
  induction as with
  | nil => rfl
  | cons a rest ih =>
    obtain ⟨ha, hrest⟩ := nodup_cons.mp h
    rw [reverse_cons, find?_append, ih hrest, find?_cons]
    by_cases hab : key a = b
    · have hmiss : rest.find? (fun c => key c = b) = none := by
        rw [find?_eq_none]
        intro c hc hcb
        exact ha (mem_map.mpr ⟨c, hc, (of_decide_eq_true hcb).trans hab.symm⟩)
      simp [hmiss, hab]
    · simp [hab]

/-- Renaming all keys moves no key. -/
theorem idxOf?_map_of_injective {γ : Type} [DecidableEq β] [DecidableEq γ] {f : β → γ}
    (hf : Function.Injective f) (bs : List β) (b : β) : (bs.map f).idxOf? (f b) = bs.idxOf? b := by
  rw [idxOf?, idxOf?, findIdx?_map]
  congr 1
  funext c
  simp [hf.eq_iff]

/-! ## First occurrences -/

/-- First occurrences do not repeat. -/
theorem nodup_eraseDups [BEq α] [LawfulBEq α] (as : List α) : as.eraseDups.Nodup := by
  match as with
  | [] => exact nodup_nil
  | a :: rest =>
    rw [eraseDups_cons, nodup_cons]
    exact ⟨by simp [mem_eraseDups], nodup_eraseDups (rest.filter fun c => !c == a)⟩
termination_by as.length
decreasing_by exact Nat.lt_succ_of_le (length_filter_le _ rest)

/-- Which items pass a test does not depend on how often they occur. -/
theorem eraseDups_filter [BEq α] [LawfulBEq α] (p : α → Bool) (as : List α) :
    (as.filter p).eraseDups = as.eraseDups.filter p := by
  match as with
  | [] => rfl
  | a :: rest =>
    have ih := eraseDups_filter p (rest.filter fun c => !c == a)
    by_cases ha : p a
    · rw [filter_cons_of_pos ha, eraseDups_cons, eraseDups_cons, filter_cons_of_pos ha, ← ih,
        filter_comm]
    · -- the items that pass differ from `a` anyway
      have hpass : (rest.filter fun c => !c == a).filter p = rest.filter p := by
        rw [filter_filter]
        refine filter_congr fun c _ => ?_
        by_cases hc : c = a <;> simp [hc, ha]
      rw [filter_cons_of_neg ha, eraseDups_cons, filter_cons_of_neg ha, ← ih, hpass]
termination_by as.length
decreasing_by exact Nat.lt_succ_of_le (length_filter_le _ rest)

/-- What is left out of a list does not matter to a function that skips it. -/
theorem filterMap_filter_of_eq_none [BEq α] [LawfulBEq α] {f : α → Option β} {a : α}
    (h : f a = none) (as : List α) :
    (as.filter fun c => !c == a).filterMap f = as.filterMap f := by
  rw [filterMap_filter]
  congr 1
  funext c
  by_cases hc : c = a <;> simp [hc, h]

/-- Repetitions may be left out before a function is applied, since they lead to repetitions. -/
theorem eraseDups_filterMap_eraseDups [BEq α] [LawfulBEq α] [BEq β] [LawfulBEq β]
    (f : α → Option β) (as : List α) :
    (as.eraseDups.filterMap f).eraseDups = (as.filterMap f).eraseDups := by
  match as with
  | [] => rfl
  | a :: rest =>
    rw [eraseDups_cons, filterMap_cons, filterMap_cons]
    cases hfa : f a with
    | none =>
      simp only
      rw [eraseDups_filterMap_eraseDups f (rest.filter fun c => !c == a),
        filterMap_filter_of_eq_none hfa]
    | some b =>
      simp only [eraseDups_cons, filter_filterMap]
      rw [eraseDups_filterMap_eraseDups _ (rest.filter fun c => !c == a),
        filterMap_filter_of_eq_none]
      simp [hfa]
termination_by as.length
decreasing_by
  all_goals exact Nat.lt_succ_of_le (length_filter_le _ rest)

/-! ## Splitting -/

/-- A list splits at a separator into one part more than it holds separators. -/
theorem length_splitOn [BEq α] [LawfulBEq α] (sep : α) (as : List α) :
    (as.splitOn sep).length = as.count sep + 1 := by
  induction as with
  | nil => rfl
  | cons a rest ih =>
    rw [splitOn_cons_eq_if_modifyHead, count_cons]
    cases a == sep <;> simp [ih]

/-- No part holds the separator. -/
theorem not_mem_of_mem_splitOn [BEq α] [LawfulBEq α] {sep : α} {as part : List α}
    (h : part ∈ as.splitOn sep) : sep ∉ part := by
  induction as generalizing part with
  | nil => simp_all
  | cons a rest ih =>
    rw [splitOn_cons_eq_if_modifyHead] at h
    split at h
    next =>
      rcases mem_cons.mp h with rfl | hrest
      · exact not_mem_nil
      · exact ih hrest
    next ha =>
      cases hparts : rest.splitOn sep with
      | nil => simp [hparts] at h
      | cons first others =>
        rw [hparts, modifyHead_cons] at h
        rcases mem_cons.mp h with rfl | hother
        · have hfirst := ih (hparts ▸ mem_cons_self)
          simpa [hfirst] using fun heq : sep = a => ha (by simp [heq])
        · exact ih (hparts ▸ mem_cons_of_mem _ hother)

/-- What holds no separator belongs to the first part. -/
theorem splitOn_append_of_not_mem [BEq α] [LawfulBEq α] {sep : α} {front : List α}
    (h : sep ∉ front) (as : List α) :
    (front ++ as).splitOn sep = (as.splitOn sep).modifyHead (front ++ ·) := by
  induction front with
  | nil => exact (congrFun modifyHead_id _).symm
  | cons a rest ih =>
    obtain ⟨ha, hrest⟩ := ne_and_not_mem_of_not_mem_cons h
    rw [cons_append, splitOn_cons_eq_if_modifyHead, if_neg (by simpa using ha.symm), ih hrest,
      modifyHead_modifyHead]
    rfl

/-- What holds no separator belongs to the last part if it stands behind. -/
theorem exists_splitOn_append_of_not_mem [BEq α] [LawfulBEq α] {sep : α} {back : List α}
    (h : sep ∉ back) (as : List α) : ∃ parts last, as.splitOn sep = parts ++ [last] ∧
      (as ++ back).splitOn sep = parts ++ [last ++ back] := by
  induction as with
  | nil => exact ⟨[], [], rfl, splitOn_eq_singleton h⟩
  | cons a rest ih =>
    obtain ⟨parts, last, hrest, hback⟩ := ih
    rw [cons_append, splitOn_cons_eq_if_modifyHead, splitOn_cons_eq_if_modifyHead, hrest, hback]
    split
    next => exact ⟨[] :: parts, last, rfl, rfl⟩
    next =>
      -- `a` is put to the first part, which is the last one if there is no other
      cases parts with
      | nil => exact ⟨[], a :: last, rfl, rfl⟩
      | cons first parts => exact ⟨(a :: first) :: parts, last, rfl, rfl⟩

end List
