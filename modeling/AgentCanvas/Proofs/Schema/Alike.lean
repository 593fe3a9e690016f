import AgentCanvas.Proofs.Schema.Checked

/-!
# Values that checks find alike

A check of a record looks up the keys that it knows and passes over all other members. Two values
that differ only in members passed over are both accepted or are refused for the same issues.

## Key definitions

- `Checked.Related`: two outcomes with the same issues or with related values.
- `Members.AgreeOn`: members with the same values under given keys.
- `Json.Alike`, `Json.AlikeItems`: objects whose members are alike, arrays whose items are.

## Key results

- `Checked.Related.also`, `Checked.Related.andThen`, `Checked.Related.each`: combined checks.
- `Members.agreeOn_put`: other keys may be set.
- `Checked.record_congr`, `Checked.list_congr`: alike values have the same outcome.
-/

namespace AgentCanvas

namespace Checked

variable {α β γ δ : Type}

/-- Two outcomes that have the same issues or related values. -/
inductive Related (R : α → β → Prop) : Checked α → Checked β → Prop where
  | valid {a : α} {b : β} (h : R a b) : Related R (.valid a) (.valid b)
  | invalid (issues : List Issue) : Related R (.invalid issues) (.invalid issues)

theorem related_eq_iff {x y : Checked α} : Related Eq x y ↔ x = y := by
  constructor
  · rintro (rfl | _) <;> rfl
  · rintro rfl
    cases x with
    | valid a => exact .valid rfl
    | invalid issues => exact .invalid issues

namespace Related

variable {R : α → β → Prop} {S : γ → δ → Prop} {x : Checked α} {y : Checked β}

/-- An outcome and itself, where its value is known to be one that it has. -/
theorem self (x : Checked α) : Related (fun a b => x = .valid a ∧ a = b) x x := by
  cases x with
  | valid a => exact .valid ⟨rfl, rfl⟩
  | invalid issues => exact .invalid issues

theorem imp {R' : α → β → Prop} (h : Related R x y) (hR : ∀ a b, R a b → R' a b) :
    Related R' x y := by
  cases h with
  | valid hab => exact .valid (hR _ _ hab)
  | invalid issues => exact .invalid issues

theorem map (h : Related R x y) {f : α → γ} {g : β → δ} (hfg : ∀ a b, R a b → S (f a) (g b)) :
    Related S (x.map f) (y.map g) := by
  cases h with
  | valid hab => exact .valid (hfg _ _ hab)
  | invalid issues => exact .invalid issues

theorem under (h : Related R x y) (step : PathStep) : Related R (x.under step) (y.under step) := by
  cases h with
  | valid hab => exact .valid hab
  | invalid issues => exact .invalid _

/-- Independent checks are related if their sides are: the issues come together in one order. -/
theorem also {f : Checked (α → γ)} {g : Checked (β → δ)}
    (hfg : Related (fun p q => ∀ a b, R a b → S (p a) (q b)) f g) (hxy : Related R x y) :
    Related S (f.also x) (g.also y) := by
  cases hfg with
  | valid hpq =>
    cases hxy with
    | valid hab => exact .valid (hpq _ _ hab)
    | invalid issues => exact .invalid _
  | invalid issues =>
    -- the second side adds its issues, if it has any
    cases hxy with
    | valid hab => exact .invalid _
    | invalid issues => exact .invalid _

theorem andThen (h : Related R x y) {next : α → Checked γ} {next' : β → Checked δ}
    (hnext : ∀ a b, R a b → Related S (next a) (next' b)) :
    Related S (x.andThen next) (y.andThen next') := by
  cases h with
  | valid hab => exact hnext _ _ hab
  | invalid issues => exact .invalid issues

/-- Lists are checked alike if their items are, one by one. -/
theorem eachFrom {check : γ → Checked α} {check' : δ → Checked β} {as : List γ} {bs : List δ}
    (h : List.Forall₂ (fun a b => Related R (check a) (check' b)) as bs) (start : Nat) :
    Related (List.Forall₂ R) (eachFrom check start as) (eachFrom check' start bs) := by
  induction h generalizing start with
  | nil => exact .valid .nil
  | cons hab _ ih =>
    refine also ((hab.under _).map fun a b hR => ?_) (ih (start + 1))
    exact fun as bs hrest => List.Forall₂.cons hR hrest

theorem each {check : γ → Checked α} {check' : δ → Checked β} {as : List γ} {bs : List δ}
    (h : List.Forall₂ (fun a b => Related R (check a) (check' b)) as bs) :
    Related (List.Forall₂ R) (each check as) (each check' bs) :=
  eachFrom h 0

end Related

/-- Lists whose items have the same outcomes have the same outcome. -/
theorem each_congr {check : α → Checked β} {as bs : List α}
    (h : List.Forall₂ (fun a b => check a = check b) as bs) : each check as = each check bs := by
  have hrelated : Related (List.Forall₂ Eq) (each check as) (each check bs) :=
    Related.each (h.imp fun _ _ hab => related_eq_iff.mpr hab)
  rwa [List.forall₂_eq_eq_eq, related_eq_iff] at hrelated

end Checked

/-! ## Members that are not looked up -/

/-- Members with the same values under the given keys. -/
def Members.AgreeOn (keys : List String) (members others : Members) : Prop :=
  ∀ key ∈ keys, members.get? key = others.get? key

instance (keys : List String) (members others : Members) :
    Decidable (members.AgreeOn keys others) :=
  inferInstanceAs (Decidable (∀ key ∈ keys, members.get? key = others.get? key))

namespace Members

variable {keys : List String} {key : String}

/-- Setting a key that is not looked up changes nothing. -/
theorem agreeOn_put (hkey : key ∉ keys) (value : Json) (members : Members) :
    members.AgreeOn keys (members.put key value) := by
  intro other hother
  have hne : key ≠ other := fun heq => hkey (heq ▸ hother)
  rw [Entries.get?_put, if_neg hne]

end Members

/-- The same value, or two objects whose members are alike. -/
inductive Json.Alike (alike : Members → Members → Prop) : Json → Json → Prop where
  | same (value : Json) : Alike alike value value
  | obj {members others : Members} (h : alike members others) :
    Alike alike (.obj members) (.obj others)

/-- What stands under a key, if anything does, is like itself. -/
theorem Json.Alike.rel_self {alike : Members → Members → Prop} (found : Option Json) :
    Option.Rel (Json.Alike alike) found found := by
  cases found with
  | none => exact .none
  | some value => exact .some (.same value)

/-- The same value, or two arrays whose items are alike one by one. -/
inductive Json.AlikeItems (alike : Json → Json → Prop) : Json → Json → Prop where
  | same (value : Json) : AlikeItems alike value value
  | arr {items others : List Json} (h : List.Forall₂ alike items others) :
    AlikeItems alike (.arr items) (.arr others)

namespace Checked

variable {α : Type} {members others : Members} {keys : List String} {key : String}

/-! ## Fields that are looked up -/

theorem required_congr (h : members.AgreeOn keys others) (hkey : key ∈ keys)
    (check : Json → Checked α) : required members key check = required others key check := by
  rw [required, required, h key hkey]

theorem optional_congr (h : members.AgreeOn keys others) (hkey : key ∈ keys) (default : α)
    (check : Json → Checked α) :
    optional members key default check = optional others key default check := by
  rw [optional, optional, h key hkey]

theorem optionalEither_congr (h : members.AgreeOn keys others) {other : String} (hkey : key ∈ keys)
    (hother : other ∈ keys) (default : α) (check : Json → Checked α) :
    optionalEither members key other default check =
      optionalEither others key other default check := by
  rw [optionalEither, optionalEither, h key hkey, optional_congr h hother]

/-- A field whose values are alike is checked alike. -/
theorem Related.optional {R : α → α → Prop} {alike : Json → Json → Prop} {check : Json → Checked α}
    (h : Option.Rel alike (members.get? key) (others.get? key)) {default : α}
    (hdefault : R default default)
    (hcheck : ∀ value twin, alike value twin → Related R (check value) (check twin)) :
    Related R (optional members key default check) (optional others key default check) := by
  unfold Checked.optional
  generalize members.get? key = found, others.get? key = foundTwin at h
  cases h with
  | some halike => exact (hcheck _ _ halike).under _
  | none => exact .valid hdefault

/-- A field whose values are alike has one outcome, if all alike values have. -/
theorem optional_congr_rel {alike : Json → Json → Prop} {check : Json → Checked α}
    (h : Option.Rel alike (members.get? key) (others.get? key)) (default : α)
    (hcheck : ∀ value twin, alike value twin → check value = check twin) :
    optional members key default check = optional others key default check :=
  related_eq_iff.mp (Related.optional h rfl fun value twin halike =>
    related_eq_iff.mpr (hcheck value twin halike))

/-- Records have the same outcome if their fields have. -/
theorem record_congr {alike : Members → Members → Prop} {shape : Shape}
    {fields : Members → Checked α} (hfields : ∀ members others, alike members others →
      fields members = fields others) {value twin : Json} (h : Json.Alike alike value twin) :
    record shape fields value = record shape fields twin := by
  cases h with
  | same => rfl
  | obj halike => exact hfields _ _ halike

/-- Lists have the same outcome if their items have. -/
theorem list_congr {alike : Json → Json → Prop} {item : Json → Checked α}
    (hitem : ∀ value twin, alike value twin → item value = item twin) {value twin : Json}
    (h : Json.AlikeItems alike value twin) : list item value = list item twin := by
  cases h with
  | same => rfl
  | arr hitems => exact each_congr (hitems.imp hitem)

/-- Objects are kept as they are. -/
theorem Related.object {alike : Members → Members → Prop} {value twin : Json}
    (h : Json.Alike alike value twin) :
    Related (Json.Alike alike) (object value) (object twin) := by
  cases h with
  | same => exact (Related.self _).imp fun a b hab => hab.2 ▸ .same a
  | obj halike => exact .valid (.obj halike)

end Checked

end AgentCanvas
