import AgentCanvas.Proofs.ForStd.List
import Mathlib.Data.List.Perm.Basic

/-!
# Except lemmas for the standard library

Chains of computations that may fail: which error such a chain ends with, and what a traversal
that succeeds returns.

## Key definitions

- `Except.failure?`: the error of a computation, if it fails.

## Key results

- `Except.failure?_mapM`: a traversal ends with the error of the first item that fails.
- `Except.bind_eq_ok_iff`: a chain succeeds exactly if both of its parts do.
- `Except.mapM_eq_ok_iff`: what a traversal returns, item by item.
- `Except.exists_mapM_eq_ok_of_sublist`, `Except.exists_mapM_eq_ok_of_perm`: what a traversal of
  fewer items returns, and of the items in another order.
-/

namespace Except

variable {ε α β : Type}

/-- The error of a computation, if it fails. -/
def failure? : Except ε α → Option ε
  | .ok _ => none
  | .error e => some e

@[simp] theorem failure?_ok (a : α) : (.ok a : Except ε α).failure? = none := rfl

@[simp] theorem failure?_error (e : ε) : (.error e : Except ε α).failure? = some e := rfl

/-- What becomes of a value does not matter for the error. -/
@[simp] theorem failure?_map (f : α → β) (x : Except ε α) : (x.map f).failure? = x.failure? := by
  cases x <;> rfl

/-- `failure?` finds exactly the error of a failed computation. -/
theorem failure?_eq_some_iff {x : Except ε α} {e : ε} : x.failure? = some e ↔ x = .error e := by
  cases x <;> simp

/-- A computation without an error has a value. -/
theorem failure?_eq_none_iff {x : Except ε α} : x.failure? = none ↔ ∃ a, x = .ok a := by
  cases x <;> simp

/-- A computation fails exactly if it has no value. -/
theorem exists_eq_error_iff {x : Except ε α} : (∃ e, x = .error e) ↔ ¬∃ a, x = .ok a := by
  cases x <;> simp

/-- A chain ends with the error of its first part, or else with that of its second part, if the
latter does not depend on the value of the first. -/
theorem failure?_bind (x : Except ε α) {next : α → Except ε β} (rest : Option ε)
    (h : ∀ a, (next a).failure? = rest) : (x >>= next).failure? = x.failure?.or rest := by
  cases x with
  | error e => rfl
  | ok a => exact h a

/-- A chain has a value exactly if both of its parts do. -/
theorem bind_eq_ok_iff {x : Except ε α} {next : α → Except ε β} {b : β} :
    (x >>= next) = .ok b ↔ ∃ a, x = .ok a ∧ next a = .ok b := by
  cases x with
  | error e => simp [bind, Except.bind]
  | ok a => simp [bind, Except.bind]

/-- A traversal ends with the error of the first item that fails. -/
theorem failure?_mapM {f : α → Except ε β} {g : α → Option ε} {as : List α}
    (h : ∀ a ∈ as, (f a).failure? = g a) : (as.mapM f).failure? = as.findSome? g := by
  induction as with
  | nil => rfl
  | cons a rest ih =>
    have htail : ∀ b, (rest.mapM f >>= fun bs => pure (b :: bs)).failure? = rest.findSome? g := by
      intro b
      rw [← ih fun c hc => h c (List.mem_cons_of_mem a hc)]
      cases rest.mapM f <;> rfl
    rw [List.mapM_cons, List.findSome?_cons, failure?_bind _ _ htail, h a List.mem_cons_self]
    cases g a <;> rfl

/-- Two traversals end alike if they do item by item. -/
theorem mapM_congr_forall₂ {γ : Type} {f : α → Except ε γ} {g : β → Except ε γ} {as : List α}
    {bs : List β} (h : List.Forall₂ (fun a b => f a = g b) as bs) : as.mapM f = bs.mapM g := by
  induction h with
  | nil => rfl
  | cons hab _ ih => rw [List.mapM_cons, List.mapM_cons, hab, ih]

/-- A traversal whose steps return the value with the same view as their item returns the values
with the same views as the items. -/
theorem mapM_eq_ok_iff {γ : Type} {f : α → Except ε β} {view : α → γ} {view' : β → γ}
    {as : List α} {bs : List β} (h : ∀ a ∈ as, ∀ b, f a = .ok b ↔ view a = view' b) :
    as.mapM f = .ok bs ↔ as.map view = bs.map view' := by
  induction as generalizing bs with
  | nil => cases bs <;> simp [pure, Except.pure]
  | cons a rest ih =>
    simp only [List.mapM_cons, bind_eq_ok_iff, h a List.mem_cons_self,
      ih fun c hc => h c (List.mem_cons_of_mem a hc), pure, Except.pure, Except.ok.injEq]
    constructor
    · rintro ⟨b, hb, tail, htail, rfl⟩
      rw [List.map_cons, List.map_cons, hb, htail]
    · intro heq
      cases bs with
      | nil => cases heq
      | cons b tail =>
        obtain ⟨hb, htail⟩ := List.cons.inj heq
        exact ⟨b, hb, tail, htail, rfl⟩

/-- A traversal returns a value for each item. -/
theorem length_eq_of_mapM_eq_ok {f : α → Except ε β} {as : List α} {bs : List β}
    (h : as.mapM f = .ok bs) : bs.length = as.length := by
  have hmap : as.map f = bs.map .ok := (mapM_eq_ok_iff fun _ _ _ => Iff.rfl).mp h
  simpa using (congrArg List.length hmap).symm

/-- A traversal returns a value for each item, made by its step. -/
theorem mapM_eq_ok_iff_forall₂ {f : α → Except ε β} {as : List α} {bs : List β} :
    as.mapM f = .ok bs ↔ List.Forall₂ (fun a b => f a = .ok b) as bs := by
  have hmap : as.mapM f = .ok bs ↔ as.map f = bs.map .ok := mapM_eq_ok_iff fun _ _ _ => Iff.rfl
  rw [hmap, ← List.forall₂_eq_eq_eq, List.forall₂_map_map_iff]

/-- A traversal of the items in another order returns the values in another order. -/
theorem exists_mapM_eq_ok_of_perm {f : α → Except ε β} {as cs : List α} {bs : List β}
    (hperm : as.Perm cs) (h : as.mapM f = .ok bs) :
    ∃ others, cs.mapM f = .ok others ∧ bs.Perm others := by
  obtain ⟨others, hothers, hsame⟩ :=
    List.perm_comp_forall₂ hperm.symm (mapM_eq_ok_iff_forall₂.mp h)
  exact ⟨others, mapM_eq_ok_iff_forall₂.mpr hothers, hsame.symm⟩

/-- A traversal of fewer items returns fewer values. -/
theorem exists_mapM_eq_ok_of_sublist {f : α → Except ε β} {as cs : List α} {bs : List β}
    (hsub : as.Sublist cs) (h : cs.mapM f = .ok bs) :
    ∃ fewer, as.mapM f = .ok fewer ∧ fewer.Sublist bs := by
  have hmap : cs.map f = bs.map .ok := (mapM_eq_ok_iff fun _ _ _ => Iff.rfl).mp h
  obtain ⟨fewer, hfewer, heq⟩ := List.sublist_map_iff.mp (hmap ▸ hsub.map f)
  exact ⟨fewer, (mapM_eq_ok_iff fun _ _ _ => Iff.rfl).mpr heq, hfewer⟩

end Except
