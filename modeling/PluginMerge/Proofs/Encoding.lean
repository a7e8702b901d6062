import PluginMerge.Source.Octets

/-!
# Decoding undoes encoding

The octets of a text, read again, are the text. The table of leading octets has a row for each
length of a character. The bounds it puts on the second octet are met because the shorter forms,
the surrogates and the values behind U+10FFFF are exactly what no character needs.

* `Octets.lead_two`, `Octets.lead_three`, `Octets.lead_four`: the rows of the table.
* `Octets.unitsFrom_utf8EncodeChar`: the octets of a character are one unit.
* `Octets.decode_encode`: whole texts.
-/

namespace PluginMerge.Octets

variable {x need low high bits : Nat}

theorem toNat_octet {n : Nat} (hn : n < 256) : (UInt8.ofNat n).toNat = n :=
  UInt8.toNat_ofNat_of_lt' hn

/-! ## The rows of the table -/

theorem lead_two (hLow : 2 ≤ x) (hHigh : x < 32) :
    lead (UInt8.ofNat (x + 0xC0)) = .begins ⟨1, 0x80, 0xBF, x⟩ := by
  unfold lead
  rw [toNat_octet (by omega)]
  grind

/-- The second of three octets is restricted for the first and for the last but two leads, which
keeps out long forms and surrogates. -/
theorem lead_three (hx : x < 16) :
    lead (UInt8.ofNat (x + 0xE0)) =
      .begins ⟨2, if x = 0 then 0xA0 else 0x80, if x = 0xD then 0x9F else 0xBF, x⟩ := by
  unfold lead
  rw [toNat_octet (by omega)]
  grind

/-- The second of four octets is restricted for the first lead and the last one, which keeps out
long forms and what lies beyond the last code point. -/
theorem lead_four (hx : x ≤ 4) :
    lead (UInt8.ofNat (x + 0xF0)) =
      .begins ⟨3, if x = 0 then 0x90 else 0x80, if x = 4 then 0x8F else 0xBF, x⟩ := by
  unfold lead
  rw [toNat_octet (by omega)]
  grind

/-! ## Reading octet by octet -/

theorem unitsFrom_begins {b : UInt8} {p : Pending} (h : lead b = .begins p) (rest : Octets) :
    unitsFrom none (b :: rest) = unitsFrom (some p) rest := by
  rw [unitsFrom, h]

theorem accepts_octet (hx : x < 64) (hLow : low ≤ x + 128) (hHigh : x + 128 ≤ high) :
    Pending.accepts ⟨need, low, high, bits⟩ (UInt8.ofNat (x + 128)) = true := by
  rw [Pending.accepts, toNat_octet (by omega), decide_eq_true hLow, decide_eq_true hHigh]
  rfl

theorem take_octet (hx : x < 64) :
    Pending.take ⟨need + 1, low, high, bits⟩ (UInt8.ofNat (x + 128)) =
      ⟨need, 0x80, 0xBF, bits * 64 + x⟩ := by
  rw [Pending.take, toNat_octet (by omega), Nat.add_sub_cancel, Nat.add_sub_cancel]

/-- An octet in the middle of a character adds six bits and lifts the restrictions of the lead. -/
theorem unitsFrom_more (hx : x < 64) (hLow : low ≤ x + 128) (hHigh : x + 128 ≤ high)
    (rest : Octets) :
    unitsFrom (some ⟨need + 2, low, high, bits⟩) (UInt8.ofNat (x + 128) :: rest) =
      unitsFrom (some ⟨need + 1, 0x80, 0xBF, bits * 64 + x⟩) rest := by
  have hNeed : ¬ need + 2 ≤ 1 := by omega
  rw [unitsFrom, if_pos (accepts_octet hx hLow hHigh), if_neg hNeed, take_octet hx]

theorem unitsFrom_last (hx : x < 64) (hLow : low ≤ x + 128) (hHigh : x + 128 ≤ high)
    (rest : Octets) :
    unitsFrom (some ⟨1, low, high, bits⟩) (UInt8.ofNat (x + 128) :: rest) =
      some (Char.ofNat (bits * 64 + x)) :: unitsFrom none rest := by
  rw [unitsFrom, if_pos (accepts_octet hx hLow hHigh), if_pos (Nat.le_refl 1), take_octet hx]

/-! ## One character -/

theorem unitsFrom_encode_two {v : Nat} (hLow : 0x7F < v) (hHigh : v ≤ 0x7FF) (rest : Octets) :
    unitsFrom none (UInt8.ofNat (v / 64 % 32 + 192) :: UInt8.ofNat (v % 64 + 128) :: rest) =
      some (Char.ofNat v) :: unitsFrom none rest := by
  have hLead := lead_two (x := v / 64 % 32) (by omega) (by omega)
  have hValue : v / 64 % 32 * 64 + v % 64 = v := by omega
  rw [unitsFrom_begins hLead, unitsFrom_last (by omega) (by omega) (by omega), hValue]

theorem unitsFrom_encode_three {v : Nat} (hLow : 0x7FF < v) (hHigh : v ≤ 0xFFFF)
    (hValid : v < 0xD800 ∨ 0xDFFF < v) (rest : Octets) :
    unitsFrom none (UInt8.ofNat (v / 4096 % 16 + 224) :: UInt8.ofNat (v / 64 % 64 + 128) ::
        UInt8.ofNat (v % 64 + 128) :: rest) =
      some (Char.ofNat v) :: unitsFrom none rest := by
  have hLead := lead_three (x := v / 4096 % 16) (by omega)
  -- The least values would fit into two octets, and behind 0xD7FF come the surrogates.
  have hSecondLow : (if v / 4096 % 16 = 0 then 0xA0 else 0x80) ≤ v / 64 % 64 + 128 := by
    split <;> omega
  have hSecondHigh : v / 64 % 64 + 128 ≤ if v / 4096 % 16 = 0xD then 0x9F else 0xBF := by
    split <;> omega
  have hValue : (v / 4096 % 16 * 64 + v / 64 % 64) * 64 + v % 64 = v := by omega
  rw [unitsFrom_begins hLead, unitsFrom_more (by omega) hSecondLow hSecondHigh,
    unitsFrom_last (by omega) (by omega) (by omega), hValue]

theorem unitsFrom_encode_four {v : Nat} (hLow : 0xFFFF < v) (hHigh : v < 0x110000)
    (rest : Octets) :
    unitsFrom none (UInt8.ofNat (v / 262144 % 8 + 240) :: UInt8.ofNat (v / 4096 % 64 + 128) ::
        UInt8.ofNat (v / 64 % 64 + 128) :: UInt8.ofNat (v % 64 + 128) :: rest) =
      some (Char.ofNat v) :: unitsFrom none rest := by
  have hLead := lead_four (x := v / 262144 % 8) (by omega)
  have hSecondLow : (if v / 262144 % 8 = 0 then 0x90 else 0x80) ≤ v / 4096 % 64 + 128 := by
    split <;> omega
  have hSecondHigh : v / 4096 % 64 + 128 ≤ if v / 262144 % 8 = 4 then 0x8F else 0xBF := by
    split <;> omega
  have hValue : ((v / 262144 % 8 * 64 + v / 4096 % 64) * 64 + v / 64 % 64) * 64 + v % 64 = v := by
    omega
  rw [unitsFrom_begins hLead, unitsFrom_more (by omega) hSecondLow hSecondHigh,
    unitsFrom_more (by omega) (by omega) (by omega),
    unitsFrom_last (by omega) (by omega) (by omega), hValue]

/-- The octets of a character are one unit, whatever follows. -/
theorem unitsFrom_utf8EncodeChar (c : Char) (rest : Octets) :
    unitsFrom none (String.utf8EncodeChar c ++ rest) = some c :: unitsFrom none rest := by
  have hSelf : Char.ofNat c.toNat = c := Char.ofNat_toNat c
  have hValid : c.toNat < 0xD800 ∨ 0xDFFF < c.toNat ∧ c.toNat < 0x110000 := c.valid
  have hValue : c.val.toNat = c.toNat := rfl
  unfold String.utf8EncodeChar
  simp only [hValue]
  split
  · rename_i hOne
    have hLead : lead (UInt8.ofNat c.toNat) = .single c := by
      unfold lead
      rw [toNat_octet (by omega), if_pos hOne, hSelf]
    rw [List.singleton_append, unitsFrom, hLead]
  · split
    · have hTwo := unitsFrom_encode_two (v := c.toNat) (by omega) (by omega) rest
      rw [hSelf] at hTwo
      exact hTwo
    · split
      · have hThree := unitsFrom_encode_three (v := c.toNat) (by omega) (by omega) (by omega) rest
        rw [hSelf] at hThree
        exact hThree
      · have hFour := unitsFrom_encode_four (v := c.toNat) (by omega) (by omega) rest
        rw [hSelf] at hFour
        exact hFour

/-- Encoded text is decoded without a single invalid unit. -/
theorem units_encode (s : Text) : units (encode s) = s.map some := by
  induction s with
  | nil => rfl
  | cons c rest ih =>
    have hSplit : encode (c :: rest) = String.utf8EncodeChar c ++ encode rest := List.flatMap_cons
    rw [units, hSplit, unitsFrom_utf8EncodeChar]
    exact congrArg (some c :: ·) ih

/-- **Decoding undoes encoding.** -/
theorem decode_encode (s : Text) : decode (encode s) = s := by
  simp [decode, units_encode, Function.comp_def]

end PluginMerge.Octets
