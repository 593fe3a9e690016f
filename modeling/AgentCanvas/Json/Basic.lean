import AgentCanvas.Number.Binary64

/-!
# JSON values

JSON values with integers and floating-point numbers kept apart and the members of an object in
order.

## Key definitions

- `Json`, with decidable equality.
- `Entries`, `Members`: entries under keys, their look-up and their update in place.
- `Json.finiteOnly`: a value without the numbers that JSON text cannot express.

## Key results

- `Entries.get?_put`: what look-up finds after an update.
- `Json.same_iff`: the comparison of values decides their equality.
-/

namespace AgentCanvas

/-- A JSON value. -/
inductive Json where
  | null
  | bool (value : Bool)
  | int (value : Int)
  | float (value : Binary64)
  | str (value : String)
  | arr (items : List Json)
  | obj (members : List (String × Json))
  deriving Inhabited

/-- Entries under text keys, in order. -/
abbrev Entries (α : Type) : Type :=
  List (String × α)

namespace Entries

variable {α : Type}

/-- The value under a key, if there is one. -/
def get? (entries : Entries α) (key : String) : Option α :=
  entries.lookup key

/-- Sets the value under a key: in the place of an entry with that key, else at the end. -/
def put (key : String) (value : α) : Entries α → Entries α
  | [] => [(key, value)]
  | entry :: rest => if entry.1 = key then (key, value) :: rest else entry :: put key value rest

/-- The first entry of a list counts for its key. -/
theorem get?_cons (entry : String × α) (rest : Entries α) (key : String) :
    get? (entry :: rest) key = if entry.1 = key then some entry.2 else rest.get? key := by
  obtain ⟨k, v⟩ := entry
  unfold get?
  rw [List.lookup_cons]
  by_cases h : k = key
  · simp [h]
  · have hkey : (key == k) = false := by simpa using fun hk => h hk.symm
    simp [h, hkey]

/-- After setting a key, it has the value set and every other key the value it had. -/
theorem get?_put (key : String) (value : α) (entries : Entries α) (other : String) :
    (put key value entries).get? other =
      if key = other then some value else entries.get? other := by
  induction entries with
  | nil => simp [put, get?_cons]
  | cons entry rest ih =>
    unfold put
    by_cases hentry : entry.1 = key
    · by_cases hother : key = other <;> simp [hentry, hother, get?_cons]
    · by_cases hother : key = other
      · subst hother
        simp [hentry, get?_cons, ih]
      · simp [hentry, hother, get?_cons, ih]

end Entries

/-- The members of an object. -/
abbrev Members : Type :=
  Entries Json

namespace Json

/-! ## Equality -/

mutual

/-- Whether two values are the same. -/
def same : Json → Json → Bool
  | .null, .null => true
  | .bool a, .bool b => a == b
  | .int a, .int b => a == b
  | .float a, .float b => a == b
  | .str a, .str b => a == b
  | .arr a, .arr b => sameItems a b
  | .obj a, .obj b => sameMembers a b
  | _, _ => false

/-- Whether two arrays hold the same items. -/
def sameItems : List Json → List Json → Bool
  | [], [] => true
  | a :: as, b :: bs => same a b && sameItems as bs
  | _, _ => false

/-- Whether two objects have the same members in the same order. -/
def sameMembers : List (String × Json) → List (String × Json) → Bool
  | [], [] => true
  | (j, a) :: as, (k, b) :: bs => j == k && (same a b && sameMembers as bs)
  | _, _ => false

end

mutual

/-- The comparison decides equality. -/
theorem same_iff : ∀ a b : Json, same a b = true ↔ a = b
  | .arr as, .arr bs => by simpa [same] using sameItems_iff as bs
  | .obj as, .obj bs => by simpa [same] using sameMembers_iff as bs
  | .null, b => by cases b <;> simp [same]
  | .bool _, b => by cases b <;> simp [same]
  | .int _, b => by cases b <;> simp [same]
  | .float _, b => by cases b <;> simp [same]
  | .str _, b => by cases b <;> simp [same]
  | .arr _, .null | .arr _, .bool _ | .arr _, .int _ | .arr _, .float _ | .arr _, .str _
  | .arr _, .obj _ => by simp [same]
  | .obj _, .null | .obj _, .bool _ | .obj _, .int _ | .obj _, .float _ | .obj _, .str _
  | .obj _, .arr _ => by simp [same]

/-- The comparison of arrays decides their equality. -/
theorem sameItems_iff : ∀ as bs : List Json, sameItems as bs = true ↔ as = bs
  | [], [] => by simp [sameItems]
  | [], _ :: _ => by simp [sameItems]
  | _ :: _, [] => by simp [sameItems]
  | a :: as, b :: bs => by simp [sameItems, same_iff a b, sameItems_iff as bs]

/-- The comparison of objects decides the equality of their members. -/
theorem sameMembers_iff : ∀ as bs : List (String × Json), sameMembers as bs = true ↔ as = bs
  | [], [] => by simp [sameMembers]
  | [], _ :: _ => by simp [sameMembers]
  | _ :: _, [] => by simp [sameMembers]
  | (j, a) :: as, (k, b) :: bs => by
    simp [sameMembers, same_iff a b, sameMembers_iff as bs, and_assoc]

end

instance : DecidableEq Json := fun a b => decidable_of_iff (same a b = true) (same_iff a b)

/-! ## Parts of values -/

/-- Whether a value is null. -/
def isNull : Json → Bool
  | .null => true
  | _ => false

/-- The items of an array; any other value has none. -/
def items : Json → List Json
  | .arr items => items
  | _ => []

/-! ## Finite numbers -/

mutual

/-- A value in which infinite numbers and NaN, at any depth, are null. -/
def finiteOnly : Json → Json
  | .float x => if x.isFinite then .float x else .null
  | .arr items => .arr (finiteItems items)
  | .obj members => .obj (finiteMembers members)
  | value => value

/-- The items of an array without infinite numbers and NaN. -/
def finiteItems : List Json → List Json
  | [] => []
  | item :: rest => item.finiteOnly :: finiteItems rest

/-- The members of an object without infinite numbers and NaN. -/
def finiteMembers : List (String × Json) → List (String × Json)
  | [] => []
  | (key, value) :: rest => (key, value.finiteOnly) :: finiteMembers rest

end

end Json

end AgentCanvas
