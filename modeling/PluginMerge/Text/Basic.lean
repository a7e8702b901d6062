/-!
# Texts

A text is the list of its characters. This module holds the operations that the rest of the
library shares: searching, trimming, cutting into words, and writing numbers.

* `Text.includes needle s`: `needle` stands somewhere in `s`.
* `Text.trim p s`: `s` without the characters of class `p` at its two ends.
* `Text.words p s`: the non-empty pieces of `s` between the characters of class `p`.
-/

namespace PluginMerge

/-- A text is the sequence of its characters. -/
abbrev Text := List Char

namespace Text

/-! ## Searching -/

/-- Whether `needle` stands somewhere in a text. -/
def includes (needle : Text) : Text → Bool
  | [] => needle.isEmpty
  | c :: rest => needle.isPrefixOf (c :: rest) || includes needle rest

theorem includes_iff {needle s : Text} : includes needle s = true ↔ needle <:+: s := by
  induction s with
  | nil => simp [includes]
  | cons c rest ih =>
    rw [includes, Bool.or_eq_true, ih, List.isPrefixOf_iff_prefix, List.infix_cons_iff]

theorem bne_of_not_mem {c : Char} {s : Text} (h : c ∉ s) : ∀ d ∈ s, (d != c) = true := by
  intro d hd
  have hne : d ≠ c := fun heq => h (heq ▸ hd)
  simpa using hne

/-- What follows `lead` in a text that starts with it. -/
def after? (lead s : Text) : Option Text :=
  if lead.isPrefixOf s then some (s.drop lead.length) else none

/-- What follows the first occurrence of `needle`. -/
def afterFirst? (needle : Text) : Text → Option Text
  | [] => after? needle []
  | c :: rest =>
    match after? needle (c :: rest) with
    | some tail => some tail
    | none => afterFirst? needle rest

/-! ## Cutting -/

/-- The text without the characters of class `p` at its two ends. -/
def trim (p : Char → Bool) (s : Text) : Text :=
  ((s.dropWhile p).reverse.dropWhile p).reverse

/-- The text without one final line feed. -/
def withoutFinalNewline (s : Text) : Text :=
  if s.getLast? = some '\n' then s.dropLast else s

/-- The non-empty pieces of a text between the characters of class `p`, in order. -/
def words (p : Char → Bool) (s : Text) : List Text :=
  (s.splitOnP p).filter (fun w => !w.isEmpty)

/-- The texts one after the other, with `sep` between neighbours. -/
def joined (sep : Text) (parts : List Text) : Text := List.intercalate sep parts

/-! ## Numbers -/

/-- A number in decimal digits. -/
def ofNat (n : Nat) : Text := Nat.toDigits 10 n

/-- The decimal digits of an integer, behind a minus sign if it is negative. -/
def ofInt : Int → Text
  | .ofNat n => ofNat n
  | .negSucc n => '-' :: ofNat (n + 1)

/-- Zeros in front of a text up to the given width. -/
def zeroPadded (width : Nat) (digits : Text) : Text :=
  List.replicate (width - digits.length) '0' ++ digits

/-! ## Order and classes of characters -/

/-- Whether a text comes first in the order by code point, or is the same. -/
def le : Text → Text → Bool
  | [], _ => true
  | _ :: _, [] => false
  | a :: as, b :: bs => decide (a.toNat < b.toNat) || (a == b && le as bs)

/-- Whether a character lies in one of the given closed ranges of code points. -/
def inRanges (ranges : List (Nat × Nat)) (c : Char) : Bool :=
  ranges.any fun r => decide (r.1 ≤ c.toNat) && decide (c.toNat ≤ r.2)

end Text

end PluginMerge
