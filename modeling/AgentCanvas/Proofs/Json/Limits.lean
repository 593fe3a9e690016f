import AgentCanvas.Proofs.Json.Outline
import Mathlib.Data.List.Infix
import Mathlib.Data.List.TakeWhile

/-!
# What the reader makes of its limits

The reader refuses some values that are no faults of their text: integers of very many digits,
values very deep inside others and halves of pairs of code units. It does so only where the text
itself shows it, whatever the limits are, and where the text shows that it is nested too deep or
escapes half of a pair, no value is read.

## Key definitions

- `Json.Cause.Shown`: what the cause of a fault shows of the text.
- `Json.Follows`: what reading a part of a text leaves, and what that part shows.
- `Json.Outcome.Kept`: a part of a text is read so, or for such a cause it is not.

## Key results

- `Json.kept_readString`, `Json.kept_readNumber`, `Json.keptWith`: the parts of the reader.
- `Json.Fits.isLimit_eq_false`: texts that fit the limits meet none.
- `Json.nesting_le_of_read`, `Json.paired_of_read`: what is read is within the limits.
-/

namespace AgentCanvas.Json

/-- What the cause of a fault shows of a text whose integers may have `limit` digits and in which
`levels` arrays and objects may stand inside one another. -/
def Cause.Shown (limit levels : Nat) (cs : List Char) : Cause → Prop
  | .longInteger _ => HasLongDigits limit (outside cs)
  | .deepArray | .deepObject => levels < nesting cs
  | .halfPair => ¬Paired cs
  | _ => True

/-- What is left of a text once a part of it is read in which `levels` arrays and objects may stand
inside one another. At its end the part closes `closed` of those that were opened before it. -/
structure Follows (levels closed : Nat) (rest cs : List Char) : Prop where
  outside_suffix : outside rest <:+ outside cs
  nesting_rest_le : nesting rest ≤ nesting cs + closed
  nesting_le : nesting cs ≤ max levels (nesting rest - closed)
  paired : Paired cs ↔ Paired rest

/-- Reading leaves what follows a part of the text, or fails for a cause that the text shows. -/
def Outcome.Kept {α : Type} (limit levels closed : Nat) (cs : List Char) : Outcome α → Prop
  | .ok (_, rest) => Follows levels closed rest cs
  | .error fault => fault.cause.Shown limit levels cs

/-! ## Parts of texts -/

section

variable {α : Type} {limit levels closed : Nat} {c : Char} {cs others rest : List Char}

namespace Follows

theorem refl (levels : Nat) (cs : List Char) : Follows levels 0 cs cs where
  outside_suffix := List.suffix_refl _
  nesting_rest_le := le_refl _
  nesting_le := le_max_right _ _
  paired := Iff.rfl

theorem trans (h : Follows levels closed rest cs) (hfirst : Follows levels 0 cs others) :
    Follows levels closed rest others where
  outside_suffix := h.outside_suffix.trans hfirst.outside_suffix
  nesting_rest_le := h.nesting_rest_le.trans (Nat.add_le_add_right hfirst.nesting_rest_le closed)
  nesting_le := by
    have hcs := h.nesting_le
    have hothers := hfirst.nesting_le
    omega
  paired := hfirst.paired.trans h.paired

theorem cons (h : isPlain c) (rest : List Char) : Follows levels 0 rest (c :: rest) where
  outside_suffix := by
    rw [outside_cons_of_isPlain h]
    exact List.suffix_cons _ _
  nesting_rest_le := by rw [nesting_cons_of_isPlain h, Nat.add_zero]
  nesting_le := by
    rw [nesting_cons_of_isPlain h]
    exact le_max_right _ _
  paired := paired_cons_of_isPlain h rest

theorem append : ∀ (front : List Char), front.all isPlain → ∀ rest,
    Follows levels 0 rest (front ++ rest)
  | [], _, rest => refl levels rest
  | c :: front, h, rest => by
    rw [List.all_cons, Bool.and_eq_true] at h
    exact (append front h.2 rest).trans (cons h.1 (front ++ rest))

/-- What a closing bracket is followed by. -/
theorem close (h : c = ']' ∨ c = '\x7d') (rest : List Char) :
    Follows levels 1 rest (c :: rest) where
  outside_suffix := by
    rw [outside_close h]
    exact List.suffix_cons _ _
  nesting_rest_le := by
    rw [nesting_close h]
    omega
  nesting_le := by
    rw [nesting_close h]
    exact le_max_right _ _
  paired := paired_cons (by rcases h with rfl | rfl <;> decide) rest

/-- In front of what closes one level stands the bracket that opens it. -/
theorem opened (hc : c = '[' ∨ c = '\x7b') (h : Follows levels 1 rest cs) :
    Follows (levels + 1) 0 rest (c :: cs) where
  outside_suffix := by
    rw [outside_open hc]
    exact h.outside_suffix.trans (List.suffix_cons _ _)
  nesting_rest_le := by
    rw [nesting_open hc]
    exact h.nesting_rest_le
  nesting_le := by
    have hle := h.nesting_le
    rw [nesting_open hc]
    omega
  paired := (paired_cons (by rcases hc with rfl | rfl <;> decide) cs).trans h.paired

/-- What is read of a literal shows nothing. -/
theorem literal (hinside : inside cs = inside rest) (hpaired : Paired cs ↔ Paired rest) :
    Follows levels 0 ('"' :: rest) ('"' :: cs) where
  outside_suffix := by
    rw [outside_quote, outside_quote, hinside]
  nesting_rest_le := by rw [nesting_quote, nesting_quote, hinside, Nat.add_zero]
  nesting_le := by
    rw [nesting_quote, nesting_quote, hinside]
    exact le_max_right _ _
  paired := (paired_cons (by decide) cs).trans (hpaired.trans (paired_cons (by decide) rest).symm)

theorem dropWhile {p : Char → Bool} (hp : ∀ c, p c → isPlain c) (cs : List Char) :
    Follows levels 0 (cs.dropWhile p) cs := by
  induction cs with
  | nil => exact refl levels []
  | cons c cs ih =>
    rw [List.dropWhile_cons]
    split
    next h => exact ih.trans (cons (hp c h) cs)
    next => exact refl levels _

theorem skipSpace (cs : List Char) : Follows levels 0 (skipSpace cs) cs := by
  refine dropWhile (fun c hc => ?_) cs
  simp only [isSpace, Bool.or_eq_true, beq_iff_eq] at hc
  rcases hc with ((rfl | rfl) | rfl) | rfl <;> rfl

/-- What follows the next token of one character. -/
theorem of_skipSpace (h : Json.skipSpace cs = c :: others) (hrest : Follows levels closed rest
    (c :: others)) : Follows levels closed rest cs :=
  hrest.trans (h ▸ skipSpace cs)

end Follows

theorem Cause.Shown.mono {cause : Cause} (h : Follows levels 0 cs others)
    (hshown : cause.Shown limit levels cs) : cause.Shown limit levels others := by
  cases cause with
  | longInteger => exact HasLongDigits.mono h.outside_suffix hshown
  | deepArray | deepObject => exact lt_of_lt_of_le hshown h.nesting_rest_le
  | halfPair => exact fun hpaired => hshown (h.paired.mp hpaired)
  | _ => trivial

/-- Behind an opening bracket there is one level less. -/
theorem Cause.Shown.opened {cause : Cause} (hc : c = '[' ∨ c = '\x7b')
    (hshown : cause.Shown limit levels cs) : cause.Shown limit (levels + 1) (c :: cs) := by
  cases cause with
  | longInteger =>
    refine HasLongDigits.mono ?_ hshown
    rw [outside_open hc]
    exact List.suffix_cons _ _
  | deepArray | deepObject =>
    show levels + 1 < nesting (c :: cs)
    rw [nesting_open hc]
    exact Nat.succ_lt_succ hshown
  | halfPair =>
    have hescape : c ≠ '\\' := by rcases hc with rfl | rfl <;> decide
    exact fun hpaired => hshown ((paired_cons hescape cs).mp hpaired)
  | _ => trivial

theorem Outcome.Kept.mono {result : Outcome α} (h : Follows levels 0 cs others)
    (hkept : result.Kept limit levels closed cs) : result.Kept limit levels closed others := by
  match result with
  | .ok (_, _) => exact Follows.trans hkept h
  | .error _ => exact Cause.Shown.mono h hkept

theorem Outcome.Kept.opened {result : Outcome α} (hc : c = '[' ∨ c = '\x7b')
    (hkept : result.Kept limit levels 1 cs) : result.Kept limit (levels + 1) 0 (c :: cs) := by
  match result with
  | .ok (_, _) => exact Follows.opened hc hkept
  | .error _ => exact Cause.Shown.opened hc hkept

end

/-! ## Strings -/

/-- A hexadecimal digit neither ends a literal nor begins an escape. -/
theorem inside_cons_of_hexValue? {c : Char} {value : Nat} (h : hexValue? c = some value)
    (cs : List Char) : inside (c :: cs) = inside cs := by
  refine inside_cons ?_ ?_ cs
  · rintro rfl
    cases h
  · rintro rfl
    cases h

theorem inside_codeUnit {a b c d : Char} {unit : Nat} (h : codeUnit? a b c d = some unit)
    (cs : List Char) : inside ('\\' :: 'u' :: a :: b :: c :: d :: cs) = inside cs := by
  simp only [codeUnit?, Option.bind_eq_bind, Option.bind_eq_some_iff] at h
  obtain ⟨_, ha, _, hb, _, hc, _, hd, -⟩ := h
  rw [inside_escape, inside_cons_of_hexValue? ha, inside_cons_of_hexValue? hb,
    inside_cons_of_hexValue? hc, inside_cons_of_hexValue? hd]

theorem readCodeUnit_eq_ok {place cs rest : List Char} {unit : Nat}
    (h : readCodeUnit place cs = .ok (unit, rest)) :
    ∃ a b c d, cs = a :: b :: c :: d :: rest ∧ codeUnit? a b c d = some unit := by
  unfold readCodeUnit at h
  split at h
  next a b c d next more =>
    split at h
    next found hunit =>
      cases h
      exact ⟨a, b, c, d, rfl, hunit⟩
    next => cases h
  next => cases h

theorem readCodeUnit_eq_error {place cs : List Char} {fault : Fault}
    (h : readCodeUnit place cs = .error fault) : fault.cause = .invalidCodeUnit := by
  unfold readCodeUnit at h
  split at h
  next =>
    split at h
    next => cases h
    next =>
      cases h
      rfl
  next =>
    cases h
    rfl

theorem isLowSurrogate_of_isHighSurrogate {unit : Nat} (h : isHighSurrogate unit) :
    isLowSurrogate unit = false := by
  simp only [isHighSurrogate, isLowSurrogate, Bool.and_eq_true, decide_eq_true_eq] at h ⊢
  simp only [Bool.and_eq_false_iff, decide_eq_false_iff_not]
  omega

theorem isHighSurrogate_of_isLowSurrogate {unit : Nat} (h : isLowSurrogate unit) :
    isHighSurrogate unit = false := by
  by_contra hhigh
  rw [isLowSurrogate_of_isHighSurrogate (Bool.not_eq_false _ ▸ hhigh)] at h
  cases h

theorem readSecondUnit_eq_ok {place cs rest : List Char} {high : Nat} {c : Char}
    (h : readSecondUnit place high cs = .ok (c, rest)) :
    inside cs = inside rest ∧ (pairedFrom true cs ↔ Paired rest) := by
  unfold readSecondUnit at h
  split at h
  next cs =>
    split at h
    next => cases h
    next low more hread =>
      obtain ⟨a, b, c, d, rfl, hunit⟩ := readCodeUnit_eq_ok hread
      split at h
      next hlow =>
        obtain rfl : more = rest := congrArg Prod.snd (Except.ok.inj h)
        refine ⟨inside_codeUnit hunit _, ?_⟩
        rw [pairedFrom_unit, hunit, Option.getD_some, hlow,
          isHighSurrogate_of_isLowSurrogate hlow, beq_self_eq_true, Bool.true_and, Paired]
      next => cases h
  next => cases h

theorem readSecondUnit_eq_error {place cs : List Char} {high : Nat} {fault : Fault}
    (h : readSecondUnit place high cs = .error fault) :
    fault.cause = .invalidCodeUnit ∨ fault.cause = .halfPair ∧ pairedFrom true cs = false := by
  unfold readSecondUnit at h
  split at h
  next cs =>
    split at h
    next fault hread =>
      cases h
      exact .inl (readCodeUnit_eq_error hread)
    next low more hread =>
      obtain ⟨a, b, c, d, rfl, hunit⟩ := readCodeUnit_eq_ok hread
      split at h
      next => cases h
      next hlow =>
        cases h
        refine .inr ⟨rfl, pairedFrom_true_eq_false fun a b c d rest heq => ?_⟩
        cases heq
        rw [hunit, Option.getD_some, Bool.eq_false_iff.mpr hlow]
  next hother =>
    cases h
    exact .inr ⟨rfl, pairedFrom_true_eq_false fun a b c d rest heq => (hother _ heq).elim⟩

/-- What stands behind an escape with a code unit. -/
theorem readUnicodeEscape_eq_ok {place cs rest : List Char} {c : Char}
    (h : readUnicodeEscape place cs = .ok (c, rest)) :
    inside ('\\' :: 'u' :: cs) = inside rest ∧ (Paired ('\\' :: 'u' :: cs) ↔ Paired rest) := by
  unfold readUnicodeEscape at h
  split at h
  next => cases h
  next unit more hread =>
    obtain ⟨a, b, c, d, rfl, hunit⟩ := readCodeUnit_eq_ok hread
    rw [inside_codeUnit hunit, Paired, pairedFrom_unit, hunit, Option.getD_some]
    split at h
    next hhigh =>
      obtain ⟨hinside, hpaired⟩ := readSecondUnit_eq_ok h
      rw [hhigh, isLowSurrogate_of_isHighSurrogate hhigh]
      exact ⟨hinside, hpaired⟩
    next hhigh =>
      split at h
      next => cases h
      next hlow =>
        cases h
        rw [Bool.eq_false_iff.mpr hhigh, Bool.eq_false_iff.mpr hlow]
        exact ⟨rfl, Iff.rfl⟩

/-- An escape with a code unit fails for its digits or because half of a pair is missing. -/
theorem readUnicodeEscape_eq_error {place cs : List Char} {fault : Fault}
    (h : readUnicodeEscape place cs = .error fault) (limit levels : Nat) :
    fault.cause.Shown limit levels ('"' :: '\\' :: 'u' :: cs) := by
  unfold readUnicodeEscape at h
  split at h
  next hread =>
    cases h
    rw [readCodeUnit_eq_error hread]
    trivial
  next unit more hread =>
    obtain ⟨a, b, c, d, rfl, hunit⟩ := readCodeUnit_eq_ok hread
    have hpaired : Paired ('"' :: '\\' :: 'u' :: a :: b :: c :: d :: more) ↔
        isLowSurrogate unit = false ∧ pairedFrom (isHighSurrogate unit) more := by
      rw [paired_cons (by decide), Paired, pairedFrom_unit, hunit, Option.getD_some,
        Bool.and_eq_true, beq_iff_eq]
    split at h
    next hhigh =>
      rcases readSecondUnit_eq_error h with hcause | ⟨hcause, hopen⟩
      · rw [hcause]
        trivial
      · rw [hcause]
        show ¬Paired _
        rw [hpaired, hhigh, hopen]
        exact fun hboth => Bool.false_ne_true hboth.2
    next =>
      split at h
      next hlow =>
        cases h
        show ¬Paired _
        rw [hpaired, hlow]
        exact fun hboth => Bool.false_ne_true hboth.1.symm
      next => cases h

theorem simpleEscape?_ne {letter c : Char} (h : simpleEscape? letter = some c) : letter ≠ 'u' := by
  rintro rfl
  cases h

/-- What follows the mark that closes a literal. -/
theorem Follows.literal_end (levels : Nat) (rest : List Char) :
    Follows levels 0 rest ('"' :: '"' :: rest) where
  outside_suffix := by
    rw [outside_quote, inside_quote]
    exact List.suffix_cons _ _
  nesting_rest_le := by rw [nesting_quote, inside_quote, nesting, Nat.add_zero]
  nesting_le := by
    rw [nesting_quote, inside_quote, nesting]
    exact le_max_right _ _
  paired := (paired_cons (by decide) _).trans (paired_cons (by decide) rest)

/-- A string is read up to its closing mark, and the only limit that it can meet is half of a
pair. -/
theorem kept_readString (limit levels : Nat) (opening : List Char) (fuel : Nat)
    (acc cs : List Char) : (readString opening fuel acc cs).Kept limit levels 0 ('"' :: cs) := by
  fun_induction readString opening fuel acc cs with
  | case1 | case2 | case4 | case7 | case9 => trivial
  | case3 _ _ rest => exact Follows.literal_end levels rest
  | case5 _ _ rest _ hread => exact readUnicodeEscape_eq_error hread limit levels
  | case6 _ _ rest _ _ hread ih =>
    obtain ⟨hinside, hpaired⟩ := readUnicodeEscape_eq_ok hread
    exact ih.mono (.literal hinside hpaired)
  | case8 _ _ letter rest _ c hletter ih =>
    have hpaired : Paired ('\\' :: letter :: rest) ↔ Paired rest := by
      rw [Paired, pairedFrom_escape (simpleEscape?_ne hletter), Bool.not_false, Bool.true_and,
        Paired]
    exact ih.mono (.literal (inside_escape letter rest) hpaired)
  | case10 _ _ c rest hquote hend _ hescape _ ih =>
    -- a backslash would begin an escape or end the text
    have hplain : c ≠ '\\' := by
      intro hc
      cases rest with
      | nil => exact hend hc rfl
      | cons letter more => exact hescape letter more hc rfl
    exact ih.mono (.literal (inside_cons hquote hplain rest) (paired_cons hplain rest))

/-! ## Numbers -/

section

variable {levels : Nat}

theorem Follows.spanDigits (cs : List Char) : Follows levels 0 (spanDigits cs).2 cs :=
  dropWhile (fun _ => isPlain_of_isDigit) cs

theorem Follows.readFraction (cs : List Char) : Follows levels 0 (readFraction cs).2 cs := by
  unfold Json.readFraction
  split
  next rest =>
    split
    · exact refl levels _
    · exact (spanDigits rest).trans (cons rfl rest)
  next => exact refl levels _

theorem Follows.readSign (cs : List Char) : Follows levels 0 (readSign cs).2 cs := by
  unfold AgentCanvas.readSign
  split
  · exact cons rfl _
  · exact cons rfl _
  · exact refl levels _

theorem Follows.readExponent (cs : List Char) : Follows levels 0 (readExponent cs).2 cs := by
  unfold Json.readExponent
  split
  next c rest =>
    dsimp only
    split
    next hc =>
      have hplain : isPlain c := by rcases hc with rfl | rfl <;> rfl
      split
      · exact refl levels _
      · exact ((spanDigits _).trans (readSign rest)).trans (cons hplain rest)
    next => exact refl levels _
  next => exact refl levels _

/-- The digits before the point stand in front of what is left. -/
theorem readWhole_eq_some {cs whole rest : List Char} (h : readWhole cs = some (whole, rest)) :
    cs = whole ++ rest ∧ ∀ c ∈ whole, c.isDigit := by
  unfold readWhole at h
  split at h
  next =>
    cases h
    exact ⟨rfl, List.forall_mem_singleton.mpr rfl⟩
  next =>
    split_ifs at h
    obtain rfl : cs.takeWhile Char.isDigit = whole := congrArg Prod.fst (Option.some.inj h)
    obtain rfl : cs.dropWhile Char.isDigit = rest := congrArg Prod.snd (Option.some.inj h)
    exact ⟨List.takeWhile_append_dropWhile.symm, fun c => List.mem_takeWhile_imp⟩

theorem outside_append {front : List Char} (h : ∀ c ∈ front, isPlain c) (rest : List Char) :
    outside (front ++ rest) = front ++ outside rest := by
  induction front with
  | nil => rfl
  | cons c front ih =>
    rw [List.cons_append, outside_cons_of_isPlain (h c List.mem_cons_self),
      ih fun d hd => h d (List.mem_cons_of_mem c hd), List.cons_append]

/-- Integers have a limit, which is beyond the digits that stand in the text. -/
theorem kept_readNumber (limit levels : Nat) (cs : List Char) :
    (readNumber limit cs).Kept limit levels 0 cs := by
  unfold readNumber
  split
  next negative unsigned hsign =>
    have hunsigned : Follows levels 0 unsigned cs := by
      split at hsign
      next rest =>
        cases hsign
        exact .cons rfl _
      next =>
        cases hsign
        exact .refl levels _
    split
    next => trivial
    next whole rest hwhole =>
      obtain ⟨rfl, hdigits⟩ := readWhole_eq_some hwhole
      have hplain : ∀ c ∈ whole, isPlain c := fun c hc => isPlain_of_isDigit (hdigits c hc)
      have hrest : Follows levels 0 (readExponent (readFraction rest).2).2 cs :=
        (((Follows.readExponent _).trans (.readFraction rest)).trans
          (.append whole (List.all_eq_true.mpr hplain) rest)).trans hunsigned
      dsimp only
      split
      · split
        next hlength =>
          refine ⟨whole, List.IsInfix.trans ?_ hunsigned.outside_suffix.isInfix, hdigits, hlength⟩
          rw [outside_append hplain]
          exact (List.prefix_append _ _).isInfix
        next => exact hrest
      · exact hrest

end

/-! ## Values -/

/-- Values, items and members are read within the limits, with so much fuel. Items and members close
the array or object that they stand in. -/
structure KeptWith (limit fuel : Nat) : Prop where
  value (levels : Nat) (cs : List Char) : (readValue limit fuel levels cs).Kept limit levels 0 cs
  items (levels : Nat) (acc : List Json) (cs : List Char) :
    (readItems limit fuel levels acc cs).Kept limit levels 1 cs
  members (levels : Nat) (acc : Members) (cs : List Char) :
    (readMembers limit fuel levels acc cs).Kept limit levels 1 cs

namespace KeptWith

variable {limit fuel : Nat}

theorem readItems_succ (h : KeptWith limit fuel) (levels : Nat) (acc : List Json)
    (cs : List Char) : (readItems limit (fuel + 1) levels acc cs).Kept limit levels 1 cs := by
  have hitem := h.value levels cs
  rw [readItems]
  split
  next hread =>
    rw [hread] at hitem
    exact hitem
  next item rest hread =>
    rw [hread] at hitem
    split
    next hclose => exact (Follows.of_skipSpace hclose (.close (.inl rfl) _)).trans hitem
    next more hcomma =>
      have hmore := ((Follows.skipSpace more).trans
        (Follows.of_skipSpace hcomma (.cons rfl _))).trans hitem
      exact (h.items levels (item :: acc) (skipSpace more)).mono hmore
    next => trivial

theorem readMembers_succ (h : KeptWith limit fuel) (levels : Nat) (acc : Members)
    (cs : List Char) : (readMembers limit (fuel + 1) levels acc cs).Kept limit levels 1 cs := by
  rw [readMembers.eq_def]
  dsimp only
  split
  next behind =>
    have hkey := kept_readString limit levels ('"' :: behind) fuel [] behind
    split
    next hread =>
      rw [hread] at hkey
      exact hkey
    next key rest hread =>
      rw [hread] at hkey
      split
      next more hcolon =>
        have hmore := ((Follows.skipSpace more).trans
          (Follows.of_skipSpace hcolon (.cons rfl _))).trans hkey
        have hvalue := (h.value levels (skipSpace more)).mono hmore
        split
        next hread =>
          rw [hread] at hvalue
          exact hvalue
        next value rest hread =>
          rw [hread] at hvalue
          split
          next hclose => exact (Follows.of_skipSpace hclose (.close (.inr rfl) _)).trans hvalue
          next more hcomma =>
            have hmore := ((Follows.skipSpace more).trans
              (Follows.of_skipSpace hcomma (.cons rfl _))).trans hvalue
            exact (h.members levels (acc.put key value) (skipSpace more)).mono hmore
          next => trivial
      next => trivial
  next => trivial

theorem readValue_succ (h : KeptWith limit fuel) (levels : Nat) (cs : List Char) :
    (readValue limit (fuel + 1) levels cs).Kept limit levels 0 cs := by
  have hdeep {c : Char} (hc : c = '[' ∨ c = '\x7b') (rest : List Char) :
      0 < nesting (c :: rest) := by
    rw [nesting_open hc]
    exact Nat.succ_pos _
  rw [readValue.eq_def]
  dsimp only
  split
  next rest =>
    have hstring := kept_readString limit levels ('"' :: rest) fuel [] rest
    split
    next hread =>
      rw [hread] at hstring
      exact hstring
    next hread =>
      rw [hread] at hstring
      exact hstring
  next rest =>
    split
    -- no level is left, and the bracket itself is one too many
    next => exact hdeep (.inr rfl) rest
    next hclose => exact .opened (.inr rfl) (.of_skipSpace hclose (.close (.inr rfl) _))
    next levels _ =>
      exact ((h.members levels [] (skipSpace rest)).mono (.skipSpace rest)).opened (.inr rfl)
  next rest =>
    split
    next => exact hdeep (.inl rfl) rest
    next hclose => exact .opened (.inl rfl) (.of_skipSpace hclose (.close (.inl rfl) _))
    next levels _ =>
      exact ((h.items levels [] (skipSpace rest)).mono (.skipSpace rest)).opened (.inl rfl)
  next rest => exact .append ['n', 'u', 'l', 'l'] rfl rest
  next rest => exact .append ['t', 'r', 'u', 'e'] rfl rest
  next rest => exact .append ['f', 'a', 'l', 's', 'e'] rfl rest
  next rest => exact .append ['N', 'a', 'N'] rfl rest
  next rest => exact .append ['I', 'n', 'f', 'i', 'n', 'i', 't', 'y'] rfl rest
  next rest => exact .append ['-', 'I', 'n', 'f', 'i', 'n', 'i', 't', 'y'] rfl rest
  next => exact kept_readNumber limit levels cs

end KeptWith

/-- Whatever is read leaves what follows it or fails for a cause that the text shows. -/
theorem keptWith (limit fuel : Nat) : KeptWith limit fuel := by
  -- values, items and members call one another, always with less fuel
  induction fuel with
  | zero =>
    -- without fuel they fail for a cause that is no limit
    constructor
    · intro levels cs
      rw [readValue]
      trivial
    · intro levels acc cs
      rw [readItems]
      trivial
    · intro levels acc cs
      rw [readMembers]
      trivial
  | succ fuel ih => exact ⟨ih.readValue_succ, ih.readItems_succ, ih.readMembers_succ⟩

/-! ## Texts -/

section

variable {limits : Limits} {text : List Char}

/-- The value of a text is read behind the space in front of it. -/
theorem kept_read (limits : Limits) (text : List Char) :
    (readValue limits.digits (2 * text.length + 2) limits.nesting (skipSpace text)).Kept
      limits.digits limits.nesting 0 text :=
  ((keptWith limits.digits (2 * text.length + 2)).value limits.nesting (skipSpace text)).mono
    (.skipSpace text)

/-- The cause of a fault in a text is shown by the text. -/
theorem shown_of_read {fault : Fault} (h : read text limits = .error fault) :
    fault.cause.Shown limits.digits limits.nesting text := by
  have hvalue := kept_read limits text
  unfold read at h
  split at h
  next =>
    -- a byte order mark
    cases h
    trivial
  next =>
    split at h
    next hread =>
      rw [hread] at hvalue
      cases h
      exact hvalue
    next =>
      split at h
      next => cases h
      next =>
        -- something behind the value
        cases h
        trivial

/-- A text that fits the limits of a reader meets none of them. -/
theorem Fits.isLimit_eq_false {fault : Fault} (hfits : Fits limits text)
    (h : read text limits = .error fault) : fault.cause.isLimit = false := by
  have hshown := shown_of_read h
  cases hcause : fault.cause with
  | longInteger =>
    rw [hcause] at hshown
    exact absurd hshown hfits.digits
  | deepArray | deepObject =>
    rw [hcause] at hshown
    exact absurd hfits.nesting (Nat.not_le_of_lt hshown)
  | halfPair =>
    rw [hcause] at hshown
    exact absurd hfits.paired hshown
  | _ => rfl

/-- Nothing but space follows the value of a text that is read. -/
theorem follows_of_read {value : Json} (h : read text limits = .ok value) :
    Follows limits.nesting 0 [] text := by
  have hvalue := kept_read limits text
  unfold read at h
  split at h
  next => cases h
  next =>
    split at h
    next => cases h
    next rest hread =>
      rw [hread] at hvalue
      split at h
      next hspace =>
        have hrest : Follows limits.nesting 0 (skipSpace rest) rest := .skipSpace rest
        rw [hspace] at hrest
        exact hrest.trans hvalue
      next => cases h

/-- A text that is read nests no more arrays and objects than the reader takes. -/
theorem nesting_le_of_read {value : Json} (h : read text limits = .ok value) :
    nesting text ≤ limits.nesting := by
  have hnesting := (follows_of_read h).nesting_le
  rwa [show nesting [] - 0 = 0 from rfl, Nat.max_zero] at hnesting

/-- A text that is read escapes no half of a pair alone, so that no character of its strings is
lost. -/
theorem paired_of_read {value : Json} (h : read text limits = .ok value) : Paired text :=
  (follows_of_read h).paired.mpr rfl

end

end AgentCanvas.Json
