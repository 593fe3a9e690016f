import AgentCanvas.Text.Utf8
import Mathlib.Tactic.SplitIfs

/-!
# Decoding undoes encoding

The bytes of a character are one lead byte and up to three bytes behind it, in ranges that leave out
longer forms of smaller numbers, surrogates and numbers that are too large. The decoder reads
exactly such bytes, so it accepts exactly what encodes some text and yields that text.

## Key definitions

- `Text.Utf8.Encoding`: the bytes that stand for a number.

## Key results

- `Text.Utf8.encoding_iff`: these are the bytes of the character with that number.
- `Text.Utf8.decodeFrom_encoding`: the decoder gets over one character.
- `Text.Utf8.exists_encoding_of_decodeFrom`: what is decoded begins with a character.
- `Text.Utf8.decode_eq_ok_iff`: the decoder accepts exactly the encoded texts.
-/

namespace AgentCanvas.Text.Utf8

/-- The bytes that stand for a number, by how many they are. -/
inductive Encoding : Nat → List UInt8 → Prop
  | one (a : UInt8) : a.toNat < 0x80 → Encoding a.toNat [a]
  | two (a b : UInt8) : 0xC2 ≤ a.toNat → a.toNat < 0xE0 → 0x80 ≤ b.toNat → b.toNat ≤ 0xBF →
      Encoding ((a.toNat - 0xC0) * 64 + (b.toNat - 0x80)) [a, b]
  | three (a b c : UInt8) : 0xE0 ≤ a.toNat → a.toNat < 0xF0 →
      (if a.toNat = 0xE0 then 0xA0 else 0x80) ≤ b.toNat →
      b.toNat ≤ (if a.toNat = 0xED then 0x9F else 0xBF) → 0x80 ≤ c.toNat → c.toNat ≤ 0xBF →
      Encoding (((a.toNat - 0xE0) * 64 + (b.toNat - 0x80)) * 64 + (c.toNat - 0x80)) [a, b, c]
  | four (a b c d : UInt8) : 0xF0 ≤ a.toNat → a.toNat ≤ 0xF4 →
      (if a.toNat = 0xF0 then 0x90 else 0x80) ≤ b.toNat →
      b.toNat ≤ (if a.toNat = 0xF4 then 0x8F else 0xBF) → 0x80 ≤ c.toNat → c.toNat ≤ 0xBF →
      0x80 ≤ d.toNat → d.toNat ≤ 0xBF →
      Encoding ((((a.toNat - 0xF0) * 64 + (b.toNat - 0x80)) * 64 + (c.toNat - 0x80)) * 64 +
        (d.toNat - 0x80)) [a, b, c, d]

/-! ## Numbers of characters -/

theorem ofNat_eq_of_eq_toNat (b : UInt8) {n : Nat} (h : n = b.toNat) : UInt8.ofNat n = b := by
  rw [h, UInt8.ofNat_toNat]

theorem toNat_ofNat_of_lt {n : Nat} (h : n < 256) : (UInt8.ofNat n).toNat = n := by
  rw [UInt8.toNat_ofNat', Nat.mod_eq_of_lt h]

namespace Encoding

variable {n : Nat} {bytes : List UInt8}

/-- A number with an encoding is that of a character. -/
theorem isValidChar (h : Encoding n bytes) : n.isValidChar := by
  rw [Nat.isValidChar]
  cases h with
  | one a ha => omega
  | two a b ha ha' hb hb' => omega
  | three a b c ha ha' hb hb' hc hc' => split_ifs at hb hb' <;> omega
  | four a b c d ha ha' hb hb' hc hc' hd hd' => split_ifs at hb hb' <;> omega

theorem toNat_ofNat (h : Encoding n bytes) : (Char.ofNat n).val.toNat = n := by
  rw [Char.ofNat, dif_pos h.isValidChar]
  rfl

/-- The bytes that stand for a number are those of its character. -/
theorem utf8EncodeChar_eq (h : Encoding n bytes) :
    String.utf8EncodeChar (Char.ofNat n) = bytes := by
  rw [String.utf8EncodeChar, h.toNat_ofNat]
  cases h with
  | one a ha => rw [if_pos (by omega), UInt8.ofNat_toNat]
  | two a b ha ha' hb hb' =>
    rw [if_neg (by omega), if_pos (by omega), ofNat_eq_of_eq_toNat a (by omega),
      ofNat_eq_of_eq_toNat b (by omega)]
  | three a b c ha ha' hb hb' hc hc' =>
    have hb₀ : 0x80 ≤ b.toNat ∧ b.toNat ≤ 0xBF ∧ (a.toNat = 0xE0 → 0xA0 ≤ b.toNat) := by
      split_ifs at hb hb' <;> omega
    rw [if_neg (by omega), if_neg (by omega), if_pos (by omega), ofNat_eq_of_eq_toNat a (by omega),
      ofNat_eq_of_eq_toNat b (by omega), ofNat_eq_of_eq_toNat c (by omega)]
  | four a b c d ha ha' hb hb' hc hc' hd hd' =>
    have hb₀ : 0x80 ≤ b.toNat ∧ b.toNat ≤ 0xBF ∧ (a.toNat = 0xF0 → 0x90 ≤ b.toNat) := by
      split_ifs at hb hb' <;> omega
    rw [if_neg (by omega), if_neg (by omega), if_neg (by omega), ofNat_eq_of_eq_toNat a (by omega),
      ofNat_eq_of_eq_toNat b (by omega), ofNat_eq_of_eq_toNat c (by omega),
      ofNat_eq_of_eq_toNat d (by omega)]

end Encoding

/-- The bytes of a character stand for its number. -/
theorem encoding_utf8EncodeChar (c : Char) : Encoding c.toNat (String.utf8EncodeChar c) := by
  have hvalid : c.toNat.isValidChar := c.valid
  rw [Nat.isValidChar] at hvalid
  rw [String.utf8EncodeChar, show c.val.toNat = c.toNat from rfl]
  generalize c.toNat = n at hvalid
  have hlast : (UInt8.ofNat (n % 64 + 128)).toNat = n % 64 + 128 := toNat_ofNat_of_lt (by omega)
  have hthird : (UInt8.ofNat (n / 64 % 64 + 128)).toNat = n / 64 % 64 + 128 :=
    toNat_ofNat_of_lt (by omega)
  have hsecond : (UInt8.ofNat (n / 4096 % 64 + 128)).toNat = n / 4096 % 64 + 128 :=
    toNat_ofNat_of_lt (by omega)
  split_ifs with hone htwo hthree
  · have hlead : (UInt8.ofNat n).toNat = n := toNat_ofNat_of_lt (by omega)
    have h := Encoding.one (UInt8.ofNat n) (by omega)
    rwa [hlead] at h
  · have hlead : (UInt8.ofNat (n / 64 % 32 + 192)).toNat = n / 64 % 32 + 192 :=
      toNat_ofNat_of_lt (by omega)
    have h := Encoding.two (.ofNat (n / 64 % 32 + 192)) (.ofNat (n % 64 + 128)) (by omega)
      (by omega) (by omega) (by omega)
    rwa [hlead, hlast, show (n / 64 % 32 + 192 - 0xC0) * 64 + (n % 64 + 128 - 0x80) = n by omega]
      at h
  · have hlead : (UInt8.ofNat (n / 4096 % 16 + 224)).toNat = n / 4096 % 16 + 224 :=
      toNat_ofNat_of_lt (by omega)
    have h := Encoding.three (.ofNat (n / 4096 % 16 + 224)) (.ofNat (n / 64 % 64 + 128))
      (.ofNat (n % 64 + 128)) (by omega) (by omega) (by split_ifs <;> omega)
      (by split_ifs <;> omega) (by omega) (by omega)
    rwa [hlead, hthird, hlast, show ((n / 4096 % 16 + 224 - 0xE0) * 64 +
      (n / 64 % 64 + 128 - 0x80)) * 64 + (n % 64 + 128 - 0x80) = n by omega] at h
  · have hlead : (UInt8.ofNat (n / 262144 % 8 + 240)).toNat = n / 262144 % 8 + 240 :=
      toNat_ofNat_of_lt (by omega)
    have h := Encoding.four (.ofNat (n / 262144 % 8 + 240)) (.ofNat (n / 4096 % 64 + 128))
      (.ofNat (n / 64 % 64 + 128)) (.ofNat (n % 64 + 128)) (by omega) (by omega)
      (by split_ifs <;> omega) (by split_ifs <;> omega) (by omega) (by omega) (by omega) (by omega)
    rwa [hlead, hsecond, hthird, hlast, show (((n / 262144 % 8 + 240 - 0xF0) * 64 +
      (n / 4096 % 64 + 128 - 0x80)) * 64 + (n / 64 % 64 + 128 - 0x80)) * 64 +
        (n % 64 + 128 - 0x80) = n by omega] at h

/-- Encoded are exactly the numbers of characters, each by the bytes of its character. -/
theorem encoding_iff {n : Nat} {bytes : List UInt8} :
    Encoding n bytes ↔ ∃ c : Char, c.toNat = n ∧ String.utf8EncodeChar c = bytes := by
  constructor
  · intro h
    exact ⟨Char.ofNat n, h.toNat_ofNat, h.utf8EncodeChar_eq⟩
  · rintro ⟨c, rfl, rfl⟩
    exact encoding_utf8EncodeChar c

/-! ## Steps of the decoder -/

theorem ofLead_one {b : Nat} (h : b < 0x80) : Pending.ofLead b = some ⟨b, 0, 0x80, 0xBF⟩ := by
  rw [Pending.ofLead, if_pos h]

theorem ofLead_two {b : Nat} (h : 0xC2 ≤ b) (h' : b < 0xE0) :
    Pending.ofLead b = some ⟨b - 0xC0, 1, 0x80, 0xBF⟩ := by
  rw [Pending.ofLead, if_neg (by omega), if_neg (by omega), if_pos h']

/-- After the lead byte of three, the next byte has the bounds of an encoding. -/
theorem ofLead_three {b : Nat} (h : 0xE0 ≤ b) (h' : b < 0xF0) : Pending.ofLead b =
    some ⟨b - 0xE0, 2, if b = 0xE0 then 0xA0 else 0x80, if b = 0xED then 0x9F else 0xBF⟩ := by
  by_cases hE0 : b = 0xE0
  · rw [hE0]
    rfl
  by_cases hED : b = 0xED
  · rw [hED]
    rfl
  rw [Pending.ofLead, if_neg (by omega), if_neg (by omega), if_neg (by omega), if_neg hE0,
    if_neg hED, if_pos h', if_neg hE0, if_neg hED]

theorem ofLead_four {b : Nat} (h : 0xF0 ≤ b) (h' : b ≤ 0xF4) : Pending.ofLead b =
    some ⟨b - 0xF0, 3, if b = 0xF0 then 0x90 else 0x80, if b = 0xF4 then 0x8F else 0xBF⟩ := by
  by_cases hF0 : b = 0xF0
  · rw [hF0]
    rfl
  by_cases hF4 : b = 0xF4
  · rw [hF4]
    rfl
  rw [Pending.ofLead, if_neg (by omega), if_neg (by omega), if_neg (by omega), if_neg (by omega),
    if_neg (by omega), if_neg (by omega), if_neg hF0, if_pos (by omega), if_neg hF0, if_neg hF4]

/-- No other byte is a lead byte. -/
theorem ofLead_eq_none {b : Nat} (h : 0x80 ≤ b) (h' : b < 0xC2 ∨ 0xF4 < b) :
    Pending.ofLead b = none := by
  rw [Pending.ofLead, if_neg (by omega)]
  rcases h' with hlow | hhigh
  · exact if_pos hlow
  · rw [if_neg (by omega), if_neg (by omega), if_neg (by omega), if_neg (by omega),
      if_neg (by omega), if_neg (by omega), if_neg (by omega), if_neg (by omega)]

variable {acc cs : List Char} {offset n : Nat} {a : UInt8} {bytes : List UInt8}

/-- The decoder gets over the bytes of one character, whatever follows. -/
theorem decodeFrom_encoding (h : Encoding n bytes) (acc : List Char) (offset : Nat)
    (rest : List UInt8) : decodeFrom acc offset none (bytes ++ rest) =
      decodeFrom (Char.ofNat n :: acc) (offset + bytes.length) none rest := by
  cases h with
  | one a ha => simp [decodeFrom, ofLead_one ha]
  | two a b ha ha' hb hb' => simp [decodeFrom, ofLead_two ha ha', Pending.next?, hb, hb']
  | three a b c ha ha' hb hb' hc hc' =>
    simp [decodeFrom, ofLead_three ha ha', Pending.next?, hb, hb', hc, hc']
  | four a b c d ha ha' hb hb' hc hc' hd hd' =>
    simp [decodeFrom, ofLead_four ha ha', Pending.next?, hb, hb', hc, hc', hd, hd']

/-- Behind a lead byte, decoding goes on only with a byte within the bounds. -/
theorem exists_cons_of_decodeFrom {o : Opening}
    (h : decodeFrom acc offset (some o) bytes = .ok cs) :
    ∃ b rest, bytes = b :: rest ∧ o.pending.low ≤ b.toNat ∧ b.toNat ≤ o.pending.high ∧
      (if o.pending.missing - 1 = 0 then
        decodeFrom (Char.ofNat (o.pending.bits * 64 + (b.toNat - 0x80)) :: acc) (offset + 1) none
          rest
      else decodeFrom acc (offset + 1) (some ⟨o.start, o.first,
        ⟨o.pending.bits * 64 + (b.toNat - 0x80), o.pending.missing - 1, 0x80, 0xBF⟩⟩) rest) =
          .ok cs := by
  cases bytes with
  | nil => cases h
  | cons b rest =>
    rw [decodeFrom, Pending.next?] at h
    by_cases hbounds : o.pending.low ≤ b.toNat ∧ b.toNat ≤ o.pending.high
    · rw [if_pos hbounds] at h
      exact ⟨b, rest, rfl, hbounds.1, hbounds.2, h⟩
    · rw [if_neg hbounds] at h
      cases h

/-- Bytes that are decoded begin with those of a character. -/
theorem exists_encoding_of_decodeFrom (h : decodeFrom acc offset none (a :: bytes) = .ok cs) :
    ∃ n front rest offset', Encoding n front ∧ a :: bytes = front ++ rest ∧
      decodeFrom (Char.ofNat n :: acc) offset' none rest = .ok cs := by
  rw [decodeFrom] at h
  by_cases hone : a.toNat < 0x80
  · rw [ofLead_one hone] at h
    exact ⟨_, [a], bytes, _, .one a hone, rfl, h⟩
  by_cases htwo : 0xC2 ≤ a.toNat ∧ a.toNat < 0xE0
  · rw [ofLead_two htwo.1 htwo.2] at h
    obtain ⟨b, rest, rfl, hb, hb', h⟩ := exists_cons_of_decodeFrom h
    exact ⟨_, [a, b], rest, _, .two a b htwo.1 htwo.2 hb hb', rfl, h⟩
  by_cases hthree : 0xE0 ≤ a.toNat ∧ a.toNat < 0xF0
  · rw [ofLead_three hthree.1 hthree.2] at h
    obtain ⟨b, rest, rfl, hb, hb', h⟩ := exists_cons_of_decodeFrom h
    obtain ⟨c, rest, rfl, hc, hc', h⟩ := exists_cons_of_decodeFrom h
    exact ⟨_, [a, b, c], rest, _, .three a b c hthree.1 hthree.2 hb hb' hc hc', rfl, h⟩
  by_cases hfour : 0xF0 ≤ a.toNat ∧ a.toNat ≤ 0xF4
  · rw [ofLead_four hfour.1 hfour.2] at h
    obtain ⟨b, rest, rfl, hb, hb', h⟩ := exists_cons_of_decodeFrom h
    obtain ⟨c, rest, rfl, hc, hc', h⟩ := exists_cons_of_decodeFrom h
    obtain ⟨d, rest, rfl, hd, hd', h⟩ := exists_cons_of_decodeFrom h
    exact ⟨_, [a, b, c, d], rest, _, .four a b c d hfour.1 hfour.2 hb hb' hc hc' hd hd', rfl, h⟩
  rw [ofLead_eq_none (by omega) (by omega)] at h
  cases h

/-! ## Texts -/

/-- The decoder yields the characters whose bytes it reads. -/
theorem decodeFrom_flatMap_utf8EncodeChar (cs : List Char) (acc : List Char) (offset : Nat) :
    decodeFrom acc offset none (cs.flatMap String.utf8EncodeChar) = .ok (acc.reverse ++ cs) := by
  induction cs generalizing acc offset with
  | nil => rw [List.flatMap_nil, decodeFrom, List.append_nil]
  | cons c rest ih =>
    have hencoding : Encoding c.toNat (String.utf8EncodeChar c) := encoding_iff.mpr ⟨c, rfl, rfl⟩
    rw [List.flatMap_cons, decodeFrom_encoding hencoding, ih, Char.ofNat_toNat,
      List.reverse_cons, List.append_assoc, List.singleton_append]

/-- What is decoded is the characters read before and those that the bytes encode. -/
theorem eq_of_decodeFrom {acc cs : List Char} {offset : Nat} {bytes : List UInt8}
    (h : decodeFrom acc offset none bytes = .ok cs) :
    ∃ read, cs = acc.reverse ++ read ∧ bytes = read.flatMap String.utf8EncodeChar := by
  match bytes with
  | [] =>
    cases h
    exact ⟨[], (List.append_nil _).symm, rfl⟩
  | a :: tail =>
    -- one character is read, then the bytes behind it, which are fewer
    obtain ⟨n, front, rest, offset', hfront, heq, hrest⟩ := exists_encoding_of_decodeFrom h
    obtain ⟨read, hcs, hread⟩ := eq_of_decodeFrom hrest
    obtain ⟨c, hn, hc⟩ := encoding_iff.mp hfront
    refine ⟨c :: read, ?_, ?_⟩
    · simp [hcs, ← hn, Char.ofNat_toNat]
    · rw [heq, List.flatMap_cons, hc, hread]
termination_by bytes.length
decreasing_by
  have hpos : 0 < front.length := by cases hfront <;> simp
  rw [heq, List.length_append]
  omega

/-- The decoder accepts exactly the bytes that encode some text, and yields that text. -/
theorem decode_eq_ok_iff : decode bytes = .ok cs ↔ cs.flatMap String.utf8EncodeChar = bytes := by
  constructor
  · intro h
    obtain ⟨read, hcs, hread⟩ := eq_of_decodeFrom h
    rw [hread, hcs, List.reverse_nil, List.nil_append]
  · rintro rfl
    exact decodeFrom_flatMap_utf8EncodeChar cs [] 0

end AgentCanvas.Text.Utf8
