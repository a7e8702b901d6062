import Mathlib.Data.List.Infix
import PluginMerge.Proofs.Encoding

/-!
# Ill-formed stretches

Any octets at all can be read. Where a character stands it is one unit. Where none does, the unit is
an ill-formed stretch: the longest octets at that place that begin some character, or a single octet
if none of them begin one. `Segmented` says this without the reader's table, and the units of the
reader are the one way to cut octets like that.

The argument about a refused octet goes through the reader itself. Octets that begin a character are
read as that character if they are completed; a run that has refused an octet has put an ill-formed
stretch in front, whatever comes later, so no completion exists.

* `Octets.Reached`: the octets behind which a character is pending.
* `Octets.Reached.utf8EncodeChar_take`: the octet that completes a pending character.
* `Octets.stretch_of_units`: octets that are read as a stretch, whatever follows, are one.
* `Octets.segmented_iff`: the units are the only segmentation.
-/

namespace PluginMerge.Octets

/-! ## Segmentations -/

def Begins (xs : Octets) : Prop := ∃ c, xs <+: String.utf8EncodeChar c

/-- In front of `rest` no character stands, and the octets `xs` are the longest ones there that
begin some character, or a single octet if none do. -/
structure Stretch (xs rest : Octets) : Prop where
  broken : ∀ c, ¬ String.utf8EncodeChar c <+: xs ++ rest
  nonempty : xs ≠ []
  begins_or_single : Begins xs ∨ xs.length = 1
  longest : ∀ ys, ys <+: xs ++ rest → Begins ys → ys.length ≤ xs.length

/-- The octets, cut into characters and ill-formed stretches. -/
inductive Segmented : Octets → List (Option Char) → Prop where
  | nil : Segmented [] []
  | character (c : Char) {rest us} (h : Segmented rest us) :
      Segmented (String.utf8EncodeChar c ++ rest) (some c :: us)
  | stretch {xs rest us} (hStretch : Stretch xs rest) (h : Segmented rest us) :
      Segmented (xs ++ rest) (none :: us)

/-- Behind these octets a character is pending. -/
inductive Reached : Octets → Pending → Prop where
  | lead {b p} (h : lead b = .begins p) : Reached [b] p
  | take {front p b} (h : Reached front p) (hAccepts : p.accepts b = true) (hNeed : 1 < p.need) :
      Reached (front ++ [b]) (p.take b)

variable {b : UInt8} {p : Pending} {c : Char} {v x y z w : Nat} {xs ys rest front : Octets}
  {us vs : List (Option Char)}

/-! ## The octets of a value -/

theorem toNat_ofNat (h : v < 0xD800 ∨ 0xDFFF < v ∧ v < 0x110000) :
    (Char.ofNat v).val.toNat = v := by
  have hValid : v.isValidChar := h
  rw [Char.ofNat, dif_pos hValid]
  rfl

theorem utf8EncodeChar_one (h : v ≤ 0x7F) :
    String.utf8EncodeChar (Char.ofNat v) = [UInt8.ofNat v] := by
  have hValue := toNat_ofNat (v := v) (by omega)
  simp only [String.utf8EncodeChar, hValue, if_pos h]

theorem utf8EncodeChar_two (hLow : 2 ≤ x) (hHigh : x < 32) (hy : y < 64) :
    String.utf8EncodeChar (Char.ofNat (x * 64 + y)) =
      [UInt8.ofNat (x + 192), UInt8.ofNat (y + 128)] := by
  have hValue := toNat_ofNat (v := x * 64 + y) (by omega)
  have hOne : ¬ x * 64 + y ≤ 0x7F := by omega
  have hTwo : x * 64 + y ≤ 0x7FF := by omega
  have hFirst : (x * 64 + y) / 64 % 32 = x := by omega
  have hSecond : (x * 64 + y) % 64 = y := by omega
  simp only [String.utf8EncodeChar, hValue, if_neg hOne, if_pos hTwo, hFirst, hSecond]

theorem utf8EncodeChar_three (hx : x < 16) (hy : y < 64)
    (hLow : (if x = 0 then 0xA0 else 0x80) ≤ y + 128)
    (hHigh : y + 128 ≤ if x = 0xD then 0x9F else 0xBF) (hz : z < 64) :
    String.utf8EncodeChar (Char.ofNat ((x * 64 + y) * 64 + z)) =
      [UInt8.ofNat (x + 224), UInt8.ofNat (y + 128), UInt8.ofNat (z + 128)] := by
  generalize hv : (x * 64 + y) * 64 + z = v
  -- By the bounds on the second octet the value does not fit into two octets and is no surrogate.
  have hRange : 0x7FF < v ∧ (v < 0xD800 ∨ 0xDFFF < v) := by
    split at hLow <;> split at hHigh <;> omega
  have hValue := toNat_ofNat (v := v) (by omega)
  have hOne : ¬ v ≤ 0x7F := by omega
  have hTwo : ¬ v ≤ 0x7FF := by omega
  have hThree : v ≤ 0xFFFF := by omega
  have hFirst : v / 4096 % 16 = x := by omega
  have hSecond : v / 64 % 64 = y := by omega
  have hThird : v % 64 = z := by omega
  simp only [String.utf8EncodeChar, hValue, if_neg hOne, if_neg hTwo, if_pos hThree, hFirst,
    hSecond, hThird]

theorem utf8EncodeChar_four (hx : x ≤ 4) (hy : y < 64)
    (hLow : (if x = 0 then 0x90 else 0x80) ≤ y + 128)
    (hHigh : y + 128 ≤ if x = 4 then 0x8F else 0xBF) (hz : z < 64) (hw : w < 64) :
    String.utf8EncodeChar (Char.ofNat (((x * 64 + y) * 64 + z) * 64 + w)) =
      [UInt8.ofNat (x + 240), UInt8.ofNat (y + 128), UInt8.ofNat (z + 128),
        UInt8.ofNat (w + 128)] := by
  generalize hv : ((x * 64 + y) * 64 + z) * 64 + w = v
  have hRange : 0xFFFF < v ∧ v < 0x110000 := by
    split at hLow <;> split at hHigh <;> omega
  have hValue := toNat_ofNat (v := v) (by omega)
  have hOne : ¬ v ≤ 0x7F := by omega
  have hTwo : ¬ v ≤ 0x7FF := by omega
  have hThree : ¬ v ≤ 0xFFFF := by omega
  have hFirst : v / 262144 % 8 = x := by omega
  have hSecond : v / 4096 % 64 = y := by omega
  have hThird : v / 64 % 64 = z := by omega
  have hFourth : v % 64 = w := by omega
  simp only [String.utf8EncodeChar, hValue, if_neg hOne, if_neg hTwo, if_neg hThree, hFirst,
    hSecond, hThird, hFourth]

theorem utf8EncodeChar_ne_nil (c : Char) : String.utf8EncodeChar c ≠ [] := by
  intro hNil
  have hUnits := unitsFrom_utf8EncodeChar c []
  rw [hNil] at hUnits
  cases hUnits

/-! ## The table of leading octets, from the other side -/

theorem eq_octet {n base : Nat} (h : b.toNat = n + base) : b = UInt8.ofNat (n + base) := by
  rw [← h, UInt8.ofNat_toNat]

theorem lead_cases (b : UInt8) :
    (b.toNat ≤ 0x7F ∧ lead b = .single (Char.ofNat b.toNat)) ∨
      (∃ x, 2 ≤ x ∧ x < 32 ∧ b = UInt8.ofNat (x + 0xC0)) ∨
      (∃ x, x < 16 ∧ b = UInt8.ofNat (x + 0xE0)) ∨
      (∃ x, x ≤ 4 ∧ b = UInt8.ofNat (x + 0xF0)) ∨ lead b = .illFormed := by
  rcases Nat.lt_or_ge b.toNat 0x80 with hOne | hOne
  · exact Or.inl ⟨by omega, if_pos (by omega)⟩
  rcases Nat.lt_or_ge b.toNat 0xC2 with hTwo | hTwo
  · refine Or.inr (Or.inr (Or.inr (Or.inr ?_)))
    rw [lead, if_neg (by omega), if_pos (by omega)]
  rcases Nat.lt_or_ge b.toNat 0xE0 with hThree | hThree
  · exact Or.inr (Or.inl ⟨b.toNat - 0xC0, by omega, by omega, eq_octet (by omega)⟩)
  rcases Nat.lt_or_ge b.toNat 0xF0 with hFour | hFour
  · exact Or.inr (Or.inr (Or.inl ⟨b.toNat - 0xE0, by omega, eq_octet (by omega)⟩))
  rcases Nat.lt_or_ge b.toNat 0xF5 with hEnd | hEnd
  · exact Or.inr (Or.inr (Or.inr (Or.inl ⟨b.toNat - 0xF0, by omega, eq_octet (by omega)⟩)))
  · refine Or.inr (Or.inr (Or.inr (Or.inr ?_)))
    rw [lead, if_neg (by omega), if_neg (by omega), if_neg (by omega), if_neg (by omega),
      if_neg (by omega), if_neg (by omega), if_neg (by omega), if_neg (by omega),
      if_neg (by omega)]

theorem lead_eq_single (h : lead b = .single c) : String.utf8EncodeChar c = [b] := by
  rcases lead_cases b with
    ⟨hOne, hLead⟩ | ⟨x, hx, hx', rfl⟩ | ⟨x, hx, rfl⟩ | ⟨x, hx, rfl⟩ | hLead
  · cases hLead.symm.trans h
    rw [utf8EncodeChar_one hOne, UInt8.ofNat_toNat]
  · cases (lead_two hx hx').symm.trans h
  · cases (lead_three hx).symm.trans h
  · cases (lead_four hx).symm.trans h
  · cases hLead.symm.trans h

/-- What a first octet of several asks of the next one. -/
theorem lead_eq_begins (h : lead b = .begins p) :
    (∃ x, 2 ≤ x ∧ x < 32 ∧ b = UInt8.ofNat (x + 0xC0) ∧ p = ⟨1, 0x80, 0xBF, x⟩) ∨
      (∃ x, x < 16 ∧ b = UInt8.ofNat (x + 0xE0) ∧
        p = ⟨2, if x = 0 then 0xA0 else 0x80, if x = 0xD then 0x9F else 0xBF, x⟩) ∨
      ∃ x, x ≤ 4 ∧ b = UInt8.ofNat (x + 0xF0) ∧
        p = ⟨3, if x = 0 then 0x90 else 0x80, if x = 4 then 0x8F else 0xBF, x⟩ := by
  rcases lead_cases b with
    ⟨hOne, hLead⟩ | ⟨x, hx, hx', rfl⟩ | ⟨x, hx, rfl⟩ | ⟨x, hx, rfl⟩ | hLead
  · cases hLead.symm.trans h
  · cases (lead_two hx hx').symm.trans h
    exact Or.inl ⟨x, hx, hx', rfl, rfl⟩
  · cases (lead_three hx).symm.trans h
    exact Or.inr (Or.inl ⟨x, hx, rfl, rfl⟩)
  · cases (lead_four hx).symm.trans h
    exact Or.inr (Or.inr ⟨x, hx, rfl, rfl⟩)
  · cases hLead.symm.trans h

/-! ## Pending characters -/

/-- A sequence under way has at least one octet, lacks at least one, and takes four in all at most.
-/
theorem Reached.bounds (h : Reached front p) :
    1 ≤ front.length ∧ front.length + p.need ≤ 4 ∧ 1 ≤ p.need ∧
      0x80 ≤ p.low ∧ p.low ≤ p.high ∧ p.high ≤ 0xBF := by
  induction h with
  | lead h =>
    rcases lead_eq_begins h with ⟨x, -, -, -, rfl⟩ | ⟨x, -, -, rfl⟩ | ⟨x, -, -, rfl⟩
    · simp
    · simp only [List.length_singleton]
      split <;> split <;> omega
    · simp only [List.length_singleton]
      split <;> split <;> omega
  | take h hAccepts hNeed ih =>
    simp only [Pending.take, List.length_append, List.length_singleton]
    omega

theorem Reached.exists_octet (h : Reached front p) (hAccepts : p.accepts b = true) :
    ∃ x, x < 64 ∧ b = UInt8.ofNat (x + 128) ∧ p.low ≤ x + 128 ∧ x + 128 ≤ p.high := by
  obtain ⟨-, -, -, hLow, -, hHigh⟩ := h.bounds
  simp only [Pending.accepts, Bool.and_eq_true, decide_eq_true_eq] at hAccepts
  have hb : b = UInt8.ofNat (b.toNat - 128 + 128) := eq_octet (by omega)
  exact ⟨b.toNat - 128, by omega, hb, by omega, by omega⟩

/-- The octet that a pending character waits for completes its octets. -/
theorem Reached.utf8EncodeChar_take (h : Reached front p) (hAccepts : p.accepts b = true)
    (hNeed : p.need ≤ 1) :
    String.utf8EncodeChar (Char.ofNat (p.take b).bits) = front ++ [b] := by
  -- The number of octets still to come tells how far back the leading octet is.
  obtain ⟨w, hw, rfl, -⟩ := h.exists_octet hAccepts
  cases h with
  | lead h =>
    obtain ⟨x, hx, hx', rfl, rfl⟩ | ⟨x, -, -, rfl⟩ | ⟨x, -, -, rfl⟩ := lead_eq_begins h
    · rw [take_octet hw, utf8EncodeChar_two hx hx' hw]
      rfl
    · exact absurd hNeed (by simp)
    · exact absurd hNeed (by simp)
  | take h hThird hMore =>
    obtain ⟨z, hz, rfl, hzLow, hzHigh⟩ := h.exists_octet hThird
    cases h with
    | lead h =>
      obtain ⟨x, -, -, -, rfl⟩ | ⟨x, hx, rfl, rfl⟩ | ⟨x, -, -, rfl⟩ := lead_eq_begins h
      · exact absurd hMore (by simp)
      · rw [take_octet hz, take_octet hw, utf8EncodeChar_three hx hz hzLow hzHigh hw]
        rfl
      · exact absurd hNeed (by simp [Pending.take])
    | take h hSecond hEvenMore =>
      obtain ⟨y, hy, rfl, hyLow, hyHigh⟩ := h.exists_octet hSecond
      cases h with
      | lead h =>
        obtain ⟨x, -, -, -, rfl⟩ | ⟨x, -, -, rfl⟩ | ⟨x, hx, rfl, rfl⟩ := lead_eq_begins h
        · exact absurd hEvenMore (by simp)
        · exact absurd hMore (by simp [Pending.take])
        · rw [take_octet hy, take_octet hz, take_octet hw,
            utf8EncodeChar_four hx hy hyLow hyHigh hz hw]
          rfl
      | take h =>
        obtain ⟨hFront, hTotal, -⟩ := h.bounds
        simp only [Pending.take] at hNeed hMore hEvenMore
        omega

/-- Octets behind which a character is pending begin one: the least octets that are accepted
complete it. -/
theorem Reached.begins (h : Reached front p) : Begins front := by
  induction hn : p.need generalizing front p with
  | zero => exact absurd h.bounds.2.2.1 (by omega)
  | succ n ih =>
    have hBounds := h.bounds
    have hLow : p.accepts (UInt8.ofNat p.low) = true := by
      simp only [Pending.accepts, toNat_octet (n := p.low) (by omega), Bool.and_eq_true,
        decide_eq_true_eq]
      omega
    by_cases hNeed : p.need ≤ 1
    · exact ⟨_, _, (h.utf8EncodeChar_take hLow hNeed).symm⟩
    · have hTake : (p.take (UInt8.ofNat p.low)).need = n := by
        simp only [Pending.take]
        omega
      obtain ⟨c, hc⟩ := ih (h.take hLow (by omega)) hTake
      exact ⟨c, (List.prefix_append front _).trans hc⟩

/-- Decoding passes the front of a sequence without an outcome. -/
theorem Reached.unitsFrom_append (h : Reached front p) (rest : Octets) :
    unitsFrom none (front ++ rest) = unitsFrom (some p) rest := by
  induction h generalizing rest with
  | lead h => exact unitsFrom_begins h rest
  | take h hAccepts hNeed ih =>
    rw [List.append_assoc, List.singleton_append, ih, unitsFrom, if_pos hAccepts,
      if_neg (by omega)]

/-- An octet that does not fit ends the sequence with one invalid unit and is looked at again. -/
theorem unitsFrom_refused (h : p.accepts b = false) (rest : Octets) :
    unitsFrom (some p) (b :: rest) = none :: unitsFrom none (b :: rest) := by
  rw [unitsFrom, unitsFrom, h]
  cases lead b <;> rfl

/-! ## Stretches -/

/-- A well-formed character at the front is decoded first. -/
theorem units_of_isPrefix (h : String.utf8EncodeChar c <+: xs) : ∃ us, units xs = some c :: us := by
  obtain ⟨rest, rfl⟩ := h
  exact ⟨_, unitsFrom_utf8EncodeChar c rest⟩

/-- Octets that are read as an ill-formed stretch in front of everything that begins like `rest` are
a stretch in front of `rest`. -/
theorem stretch_of_units (hNil : xs ≠ []) (hBegins : Begins xs ∨ xs.length = 1)
    (hUnits : ∀ more : Octets, more.head? = rest.head? → ∃ us, units (xs ++ more) = none :: us) :
    Stretch xs rest where
  broken c hPrefix := by
    obtain ⟨us, hus⟩ := units_of_isPrefix hPrefix
    obtain ⟨vs, hvs⟩ := hUnits rest rfl
    rw [hus] at hvs
    cases hvs
  nonempty := hNil
  begins_or_single := hBegins
  longest ys hys := by
    rintro ⟨c, more, hc⟩
    by_contra hLonger
    -- A longer beginning `xs ++ d :: tail` of a character `c` is read as a stretch, not as `c`.
    have hFront : xs <+: ys :=
      List.prefix_of_prefix_length_le (List.prefix_append xs rest) hys (by omega)
    obtain ⟨tail, rfl⟩ := hFront
    obtain ⟨d, tail, rfl⟩ : ∃ d rest, tail = d :: rest :=
      List.exists_cons_of_ne_nil fun hNil => hLonger (by simp [hNil])
    obtain ⟨behind, rfl⟩ : ∃ behind, rest = d :: behind := by
      obtain ⟨behind, hBehind⟩ := (List.prefix_append_right_inj xs).mp hys
      exact ⟨_, hBehind.symm⟩
    obtain ⟨us, hus⟩ := units_of_isPrefix (List.prefix_refl (String.utf8EncodeChar c))
    obtain ⟨vs, hvs⟩ := hUnits (d :: (tail ++ more)) rfl
    rw [← hc, List.append_assoc, List.cons_append, hvs] at hus
    cases hus

theorem Reached.stretch (h : Reached front p) (hRest : ∀ b ∈ rest.head?, p.accepts b = false) :
    Stretch front rest := by
  refine stretch_of_units (List.length_pos_iff.mp h.bounds.1) (Or.inl h.begins) fun more hMore => ?_
  rw [units, h.unitsFrom_append]
  cases more with
  | nil => exact ⟨[], rfl⟩
  | cons b more => exact ⟨_, unitsFrom_refused (hRest b (hMore ▸ rfl)) more⟩

theorem stretch_of_illFormed (h : lead b = .illFormed) (rest : Octets) : Stretch [b] rest := by
  refine stretch_of_units (List.cons_ne_nil b []) (Or.inr rfl) fun more _ => ⟨units more, ?_⟩
  rw [units, List.singleton_append, unitsFrom, h]
  rfl

/-! ## The units -/

/-- Decoding segments the octets. The induction needs both states of the decoder, between sequences
and within one. -/
theorem segmented_unitsFrom (xs : Octets) :
    Segmented xs (unitsFrom none xs) ∧
      ∀ front p, Reached front p → Segmented (front ++ xs) (unitsFrom (some p) xs) := by
  induction xs with
  | nil =>
    refine ⟨.nil, fun front p h => ?_⟩
    exact .stretch (h.stretch (by simp)) .nil
  | cons b rest ih =>
    have hFresh : Segmented (b :: rest) (unitsFrom none (b :: rest)) := by
      rw [unitsFrom]
      cases hLead : lead b with
      | single c =>
        have hCharacter := Segmented.character c ih.1
        rw [lead_eq_single hLead] at hCharacter
        exact hCharacter
      | begins p => exact ih.2 [b] p (.lead hLead)
      | illFormed => exact .stretch (stretch_of_illFormed hLead rest) ih.1
    refine ⟨hFresh, fun front p h => ?_⟩
    cases hAccepts : p.accepts b with
    | false =>
      rw [unitsFrom_refused hAccepts]
      exact .stretch (h.stretch (by simpa using hAccepts)) hFresh
    | true =>
      have hSplit : front ++ b :: rest = front ++ [b] ++ rest := by simp
      rw [unitsFrom, if_pos hAccepts, hSplit]
      split
      · rename_i hNeed
        rw [← h.utf8EncodeChar_take hAccepts hNeed]
        exact .character _ ih.1
      · exact ih.2 _ _ (h.take hAccepts (by omega))

theorem segmented_units (xs : Octets) : Segmented xs (units xs) := (segmented_unitsFrom xs).1

/-- Two stretches at the same place have the same length, since neither can be longer. -/
theorem Stretch.length_le {behind : Octets} (hx : Stretch xs rest) (hy : Stretch ys behind)
    (heq : xs ++ rest = ys ++ behind) : xs.length ≤ ys.length := by
  rcases hx.begins_or_single with hBegins | hOne
  · exact hy.longest xs (heq ▸ List.prefix_append xs rest) hBegins
  · have hPos := List.length_pos_iff.mpr hy.nonempty
    omega

theorem Segmented.unique (hus : Segmented xs us) (hvs : Segmented ys vs) (heq : xs = ys) :
    us = vs := by
  induction hus generalizing ys vs with
  | nil =>
    cases hvs with
    | nil => rfl
    | character c h => exact absurd (List.append_eq_nil_iff.mp heq.symm).1 (utf8EncodeChar_ne_nil c)
    | stretch hStretch h =>
      exact absurd (List.append_eq_nil_iff.mp heq.symm).1 hStretch.nonempty
  | character c h ih =>
    cases hvs with
    | nil => exact absurd (List.append_eq_nil_iff.mp heq).1 (utf8EncodeChar_ne_nil c)
    | character d h' =>
      have hUnits := congrArg (unitsFrom none) heq
      rw [unitsFrom_utf8EncodeChar, unitsFrom_utf8EncodeChar] at hUnits
      cases (List.cons.inj hUnits).1
      rw [ih h' (List.append_cancel_left heq)]
    | stretch hStretch h' => exact absurd (heq ▸ List.prefix_append _ _) (hStretch.broken c)
  | stretch hStretch h ih =>
    cases hvs with
    | nil => exact absurd (List.append_eq_nil_iff.mp heq).1 hStretch.nonempty
    | character d h' => exact absurd (heq ▸ List.prefix_append _ _) (hStretch.broken d)
    | stretch hStretch' h' =>
      have hLength := Nat.le_antisymm (hStretch.length_le hStretch' heq)
        (hStretch'.length_le hStretch heq.symm)
      rw [ih h' (List.append_inj heq hLength).2]

/-- **The units are the only segmentation.** -/
theorem segmented_iff : Segmented xs us ↔ us = units xs := by
  constructor
  · intro h
    exact h.unique (segmented_units xs) rfl
  · rintro rfl
    exact segmented_units xs

end PluginMerge.Octets
