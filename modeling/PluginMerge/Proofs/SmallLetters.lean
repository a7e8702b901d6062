import Mathlib.Data.List.TakeWhile
import PluginMerge.Proofs.Segments
import PluginMerge.Text.Blank
import PluginMerge.Text.Lowercase

/-!
# Small letters

Lowering a text changes letters of many scripts, but only three kinds of characters become basic
ones: the basic capitals, the capital I with a dot, and the sign of the unit kelvin. For a word
without `i` and `k` it is therefore enough to lower the basic letters.

* `Text.small_of_lt`, `Text.exists_small_of_le`: the small forms of basic and of other characters.
* `Text.lowercase_eq_iff`: when a text becomes a plain word in small letters.
* `Text.strip_map_toLower`: lowering does not change where a text is cut.
-/

namespace PluginMerge

namespace Text

/-- A character of plain words: none that a character outside the basic ones could become. The
capital I with a dot becomes an `i` and its dot, and the sign of the unit kelvin becomes a `k`. -/
def IsPlain (c : Char) : Prop := c.toNat < 0x80 ∧ c ≠ 'i' ∧ c ≠ 'k'

instance (c : Char) : Decidable (IsPlain c) := inferInstanceAs (Decidable (_ ∧ _))

variable {c : Char} {w : Text}

theorem toLower_of_le (h : 0x80 ≤ c.toNat) : c.toLower = c := by
  unfold Char.toLower
  split
  · rename_i hCapital
    have hLast : c.toNat ≤ 0x5A := UInt32.le_iff_toNat_le.mp hCapital.2
    omega
  · rfl

/-- What holds of every code below 0x80 holds of every basic character. -/
theorem of_forall_basic {P : Char → Prop} (hAll : ∀ n < 0x80, P (Char.ofNat n))
    (h : c.toNat < 0x80) : P c := by
  have hc := hAll c.toNat h
  rwa [Char.ofNat_toNat] at hc

/-- The basic capitals, the first run of the table. -/
def basicRun : CaseRun := ⟨0x41, 0x5A, 1, 32⟩

theorem le_first_of_mem_tail : ∀ r ∈ smallRuns.tail, 0x80 ≤ r.first := by
  decide +kernel

theorem find?_smallRuns_of_lt {n : Nat} (h : n < 0x80) :
    smallRuns.find? (·.contains n) = if basicRun.contains n then some basicRun else none := by
  have hRuns : smallRuns = basicRun :: smallRuns.tail := rfl
  have hTail : smallRuns.tail.find? (·.contains n) = none := by
    rw [List.find?_eq_none]
    intro r hr hContains
    have hFirst := le_first_of_mem_tail r hr
    simp only [CaseRun.contains, Bool.and_eq_true, decide_eq_true_eq] at hContains
    omega
  rw [hRuns, List.find?_cons, hTail]
  cases basicRun.contains n <;> rfl

theorem toLower_of_lt (h : c.toNat < 0x80) :
    c.toLower =
      if basicRun.contains c.toNat then Char.ofNat (basicRun.counterpart c.toNat) else c := by
  refine of_forall_basic (P := fun c => c.toLower =
    if basicRun.contains c.toNat then Char.ofNat (basicRun.counterpart c.toNat) else c) ?_ h
  decide +kernel

theorem small_of_lt (h : c.toNat < 0x80) : small c = [c.toLower] := by
  rw [small, if_neg (by omega), find?_smallRuns_of_lt h, toLower_of_lt h]
  cases basicRun.contains c.toNat <;> rfl

/-- Apart from the basic letters and the sign of the unit kelvin, all letters of the table have
their small forms outside the basic characters. -/
theorem bounds_of_mem_smallRuns : ∀ r ∈ smallRuns,
    r.last < 0x80 ∨ (r.first = r.last ∧ r.first + r.shift = 0x6B) ∨
      0x80 ≤ r.first + r.shift ∧ (r.last + r.shift < 0xD800 ∨
        0xE000 ≤ r.first + r.shift ∧ r.last + r.shift < 0x110000) := by
  decide +kernel

theorem not_isPlain_counterpart {r : CaseRun} (hr : r ∈ smallRuns) {n : Nat} (hn : 0x80 ≤ n)
    (hFirst : r.first ≤ n) (hLast : n ≤ r.last) : ¬ IsPlain (Char.ofNat (r.counterpart n)) := by
  rintro ⟨hBasic, -, hKelvin⟩
  rcases bounds_of_mem_smallRuns r hr with h | ⟨hOne, hShift⟩ | ⟨hLow, hHigh⟩
  · omega
  · have hCode : r.counterpart n = 0x6B := by
      unfold CaseRun.counterpart
      omega
    exact hKelvin (congrArg Char.ofNat hCode)
  · have hBound : 0x80 ≤ r.counterpart n ∧ (r.counterpart n < 0xD800 ∨
        0xDFFF < r.counterpart n ∧ r.counterpart n < 0x110000) := by
      unfold CaseRun.counterpart
      omega
    have hCode : (Char.ofNat (r.counterpart n)).toNat = r.counterpart n :=
      Octets.toNat_ofNat hBound.2
    omega

/-- A character from 0x80 on never becomes a plain one. -/
theorem exists_small_of_le (h : 0x80 ≤ c.toNat) : ∃ d rest, small c = d :: rest ∧ ¬ IsPlain d := by
  unfold small
  split_ifs
  · exact ⟨_, _, rfl, by decide⟩
  · cases hFound : smallRuns.find? (·.contains c.toNat) with
    | none => exact ⟨c, [], rfl, fun hPlain => absurd hPlain.1 (by omega)⟩
    | some r =>
      have hRun := List.find?_some hFound
      simp only [CaseRun.contains, Bool.and_eq_true, decide_eq_true_eq] at hRun
      exact ⟨_, [], rfl, not_isPlain_counterpart (List.mem_of_find?_eq_some hFound) h hRun.1.1
        hRun.1.2⟩

/-- A character outside the basic ones becomes something that no plain word starts with. -/
theorem exists_smallBetween_of_le (before after : Text) (h : 0x80 ≤ c.toNat) :
    ∃ d rest, smallBetween before c after = d :: rest ∧ ¬ IsPlain d := by
  unfold smallBetween
  split
  · refine ⟨_, [], rfl, ?_⟩
    split <;> decide
  · exact exists_small_of_le h

theorem smallBetween_of_lt (before after : Text) (h : c.toNat < 0x80) :
    smallBetween before c after = [c.toLower] := by
  rw [smallBetween, if_neg (by omega), small_of_lt h]

/-- A text becomes a plain word in small letters exactly if it does so when the basic letters alone
are lowered. -/
theorem lowercaseBehind_eq_iff (hw : ∀ d ∈ w, IsPlain d) (before s : Text) :
    lowercaseBehind before s = w ↔ s.map Char.toLower = w := by
  induction s generalizing before w with
  | nil => rfl
  | cons c rest ih =>
    rw [lowercaseBehind, List.map_cons]
    rcases Nat.lt_or_ge c.toNat 0x80 with hBasic | hForeign
    · rw [smallBetween_of_lt before rest hBasic, List.singleton_append]
      cases w with
      | nil => simp
      | cons d w =>
        rw [List.cons.injEq, List.cons.injEq,
          ih (fun x hx => hw x (List.mem_cons_of_mem d hx)) (c :: before)]
    · -- Neither side can be the word, because of its first character.
      obtain ⟨d, others, hSmall, hd⟩ := exists_smallBetween_of_le before rest hForeign
      rw [hSmall, toLower_of_le hForeign]
      constructor
      · rintro rfl
        exact absurd (hw d List.mem_cons_self) hd
      · rintro rfl
        exact absurd (hw c List.mem_cons_self).1 (Nat.not_lt.mpr hForeign)

/-- For a plain word only the basic letters of the text are made small: no other character leads to
one of its letters. -/
theorem lowercase_eq_iff (hw : ∀ d ∈ w, IsPlain d) (s : Text) :
    lowercase s = w ↔ s.map Char.toLower = w :=
  lowercaseBehind_eq_iff hw [] s

theorem isBlank_toLower (c : Char) : isBlank c.toLower = isBlank c := by
  rcases Nat.lt_or_ge c.toNat 0x80 with hBasic | hForeign
  · refine of_forall_basic (P := fun c => isBlank c.toLower = isBlank c) ?_ hBasic
    decide +kernel
  · rw [toLower_of_le hForeign]

/-- Lowering the basic letters does not change where a text is cut. -/
theorem strip_map_toLower (s : Text) : strip (s.map Char.toLower) = (strip s).map Char.toLower := by
  have hBlank : isBlank ∘ Char.toLower = isBlank := funext isBlank_toLower
  rw [strip, strip, trim, trim, List.dropWhile_map, ← List.map_reverse, List.dropWhile_map,
    ← List.map_reverse, hBlank]

end Text

end PluginMerge
