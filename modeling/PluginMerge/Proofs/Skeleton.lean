import Mathlib.Algebra.Ring.Int.Defs
import Mathlib.Data.List.DropRight
import PluginMerge.Proofs.Layout
import PluginMerge.Proofs.Segments

/-!
# What reading keeps of any octets

A file need not be well-formed. An ill-formed stretch holds no octet below 0x80, and neither does a
character of several octets, so the octets below 0x80 are read as the characters that they are, in
their order, and no stretch takes a brace or a line ending with it.

* `SameSkeleton`: octets and a text with the same characters below 0x80 in the same places.
* `endings`: the number of line endings, of octets or of a text.
* `exists_unlines`: a text as it is written from its lines.
* `SourceFile.ofOctets_skeleton`: the lines of a file in terms of its octets.
-/

namespace PluginMerge

/-- The number of line endings: every line feed is one, and so is every carriage return without a
line feed behind it. -/
def endings {α : Type} [DecidableEq α] (feed ret : α) : List α → Nat
  | [] => 0
  | x :: rest =>
    endings feed ret rest + if x = feed ∨ x = ret ∧ rest.head? ≠ some feed then 1 else 0

/-- The text behind the last line ending. -/
def openLine (s : Text) : Text := s.rtakeWhile fun c => c != '\n' && c != '\r'

/-- The content of a file and its octets without a byte-order mark. A file that ends inside its mark
has none. -/
inductive Unmarked : Octets → Octets → Prop where
  | cut {content} (h : content <+: byteOrderMark) : Unmarked content []
  | marked (octets : Octets) : Unmarked (byteOrderMark ++ octets) octets
  | plain {content} (hCut : ¬ content <+: byteOrderMark) (hMarked : ¬ byteOrderMark <+: content) :
      Unmarked content content

/-- An octet below 0x80 is read as the character that it is. Other octets are read in groups, each
as one other character. -/
inductive SameSkeleton : Octets → Text → Prop where
  | nil : SameSkeleton [] []
  | ascii {b rest s} (hb : b.toNat < 0x80) (h : SameSkeleton rest s) :
      SameSkeleton (b :: rest) (Char.ofNat b.toNat :: s)
  | foreign {xs rest c s} (hNil : xs ≠ []) (hxs : ∀ b ∈ xs, 0x80 ≤ b.toNat) (hc : 0x80 ≤ c.toNat)
      (h : SameSkeleton rest s) : SameSkeleton (xs ++ rest) (c :: s)

variable {b : UInt8} {c : Char} {xs rest content : Octets} {s l : Text}

/-! ## Octets of a character -/

theorem toNat_ofNat_toNat (hb : b.toNat < 0x80) : (Char.ofNat b.toNat).toNat = b.toNat :=
  Octets.toNat_ofNat (by omega)

theorem ofNat_toNat_inj {d : UInt8} (hb : b.toNat < 0x80) (hd : d.toNat < 0x80) :
    Char.ofNat b.toNat = Char.ofNat d.toNat ↔ b = d := by
  rw [← Char.toNat_inj, toNat_ofNat_toNat hb, toNat_ofNat_toNat hd, UInt8.toNat_inj]

theorem ofNat_toNat_eq_feed_iff (hb : b.toNat < 0x80) : Char.ofNat b.toNat = '\n' ↔ b = 0x0A :=
  ofNat_toNat_inj (d := 0x0A) hb (by decide)

theorem ofNat_toNat_eq_return_iff (hb : b.toNat < 0x80) : Char.ofNat b.toNat = '\r' ↔ b = 0x0D :=
  ofNat_toNat_inj (d := 0x0D) hb (by decide)

/-- A character is one octet below 0x80, or all its octets are above. -/
theorem utf8EncodeChar_cases (c : Char) :
    (∃ b : UInt8, b.toNat < 0x80 ∧ c = Char.ofNat b.toNat ∧ String.utf8EncodeChar c = [b]) ∨
      0x80 ≤ c.toNat ∧ ∀ b ∈ String.utf8EncodeChar c, 0x80 ≤ b.toNat := by
  have hSelf : Char.ofNat c.toNat = c := Char.ofNat_toNat c
  have hValue : c.val.toNat = c.toNat := rfl
  unfold String.utf8EncodeChar
  simp only [hValue]
  split
  · rename_i hOne
    have hOctet := Octets.toNat_octet (n := c.toNat) (by omega)
    exact Or.inl ⟨UInt8.ofNat c.toNat, by omega, by rw [hOctet, hSelf], rfl⟩
  · refine Or.inr ⟨by omega, fun b hb => ?_⟩
    -- Every octet of a longer character is a sum with 0x80 or more.
    split at hb
    · simp only [List.mem_cons, List.not_mem_nil, or_false] at hb
      rcases hb with rfl | rfl <;> rw [Octets.toNat_octet (by omega)] <;> omega
    · split at hb
      · simp only [List.mem_cons, List.not_mem_nil, or_false] at hb
        rcases hb with rfl | rfl | rfl <;> rw [Octets.toNat_octet (by omega)] <;> omega
      · simp only [List.mem_cons, List.not_mem_nil, or_false] at hb
        rcases hb with rfl | rfl | rfl | rfl <;> rw [Octets.toNat_octet (by omega)] <;> omega

theorem Octets.Stretch.le_toNat (h : Octets.Stretch xs rest) : ∀ b ∈ xs, 0x80 ≤ b.toNat := by
  rcases h.begins_or_single with ⟨c, hc⟩ | hOne
  · rcases utf8EncodeChar_cases c with ⟨b, -, -, hOctets⟩ | ⟨-, hForeign⟩
    · -- Octets that begin a character of one octet are that character.
      obtain ⟨d, xs, rfl⟩ := List.exists_cons_of_ne_nil h.nonempty
      rw [hOctets, List.cons_prefix_cons, List.prefix_nil] at hc
      obtain ⟨rfl, rfl⟩ := hc
      exact absurd (hOctets ▸ List.prefix_append _ _) (h.broken c)
    · exact fun b hb => hForeign b (hc.subset hb)
  · obtain ⟨b, rfl⟩ := List.length_eq_one_iff.mp hOne
    intro d hd
    cases List.mem_singleton.mp hd
    by_contra hLow
    have hOctets := Octets.utf8EncodeChar_one (v := b.toNat) (by omega)
    rw [UInt8.ofNat_toNat] at hOctets
    exact absurd (hOctets ▸ List.prefix_append _ _) (h.broken (Char.ofNat b.toNat))

/-! ## The characters below 0x80 -/

/-- Segments of several octets, valid or not, have no part in the skeleton. -/
theorem sameSkeleton_of_segmented {us : List (Option Char)} (h : Octets.Segmented xs us) :
    SameSkeleton xs (us.map (·.getD Octets.replacement)) := by
  induction h with
  | nil => exact .nil
  | character c h ih =>
    rcases utf8EncodeChar_cases c with ⟨b, hb, rfl, hOctets⟩ | ⟨hc, hForeign⟩
    · rw [hOctets]
      exact .ascii hb ih
    · exact .foreign (Octets.utf8EncodeChar_ne_nil c) hForeign hc ih
  | stretch hStretch h ih =>
    exact .foreign hStretch.nonempty hStretch.le_toNat (by decide) ih

/-- Decoding keeps the skeleton, whatever the octets are. -/
theorem sameSkeleton_decode (xs : Octets) : SameSkeleton xs (Octets.decode xs) :=
  sameSkeleton_of_segmented (Octets.segmented_units xs)

theorem filter_foreign_append (hxs : ∀ b ∈ xs, 0x80 ≤ b.toNat) (rest : Octets) :
    (xs ++ rest).filter (fun b => decide (b.toNat < 0x80)) =
      rest.filter fun b => decide (b.toNat < 0x80) := by
  have hNone : xs.filter (fun b => decide (b.toNat < 0x80)) = [] := by
    simpa [List.filter_eq_nil_iff] using hxs
  rw [List.filter_append, hNone, List.nil_append]

theorem SameSkeleton.filter_eq (h : SameSkeleton xs s) :
    s.filter (fun c => decide (c.toNat < 0x80)) =
      (xs.filter fun b => decide (b.toNat < 0x80)).map fun b => Char.ofNat b.toNat := by
  induction h with
  | nil => rfl
  | @ascii b rest s hb h ih =>
    have hc : (Char.ofNat b.toNat).toNat < 0x80 := (toNat_ofNat_toNat hb).trans_lt hb
    rw [List.filter_cons_of_pos (by simpa using hc), List.filter_cons_of_pos (by simpa using hb),
      List.map_cons, ih]
  | foreign hNil hxs hc h ih =>
    rw [filter_foreign_append hxs, List.filter_cons_of_neg (by simpa using hc), ih]

/-! ## Line endings -/

theorem endings_foreign_append (hxs : ∀ b ∈ xs, 0x80 ≤ b.toNat) (rest : Octets) :
    endings 0x0A 0x0D (xs ++ rest) = endings 0x0A 0x0D rest := by
  induction xs with
  | nil => rfl
  | cons b xs ih =>
    have hb := hxs b List.mem_cons_self
    have hNone : ¬ (b = 0x0A ∨ b = 0x0D ∧ (xs ++ rest).head? ≠ some 0x0A) := by
      rintro (rfl | ⟨rfl, -⟩)
      · exact absurd hb (by decide)
      · exact absurd hb (by decide)
    rw [List.cons_append, endings, if_neg hNone, Nat.add_zero,
      ih fun d hd => hxs d (List.mem_cons_of_mem b hd)]

/-- Text and octets begin with a line feed together. A carriage return in front asks for this. -/
theorem SameSkeleton.head?_eq_feed_iff (h : SameSkeleton xs s) :
    s.head? = some '\n' ↔ xs.head? = some 0x0A := by
  cases h with
  | nil => simp
  | ascii hb h =>
    rw [List.head?_cons, List.head?_cons, Option.some_inj, Option.some_inj]
    exact ofNat_toNat_eq_feed_iff hb
  | @foreign xs rest c s hNil hxs hc h =>
    obtain ⟨b, xs, rfl⟩ := List.exists_cons_of_ne_nil hNil
    have hb := hxs b List.mem_cons_self
    constructor
    · rintro hHead
      cases hHead
      exact absurd hc (by decide)
    · rintro hHead
      cases hHead
      exact absurd hb (by decide)

theorem SameSkeleton.endings_eq (h : SameSkeleton xs s) :
    endings '\n' '\r' s = endings 0x0A 0x0D xs := by
  induction h with
  | nil => rfl
  | @ascii b rest s hb h ih =>
    simp only [endings, ih, ofNat_toNat_eq_feed_iff hb, ofNat_toNat_eq_return_iff hb, ne_eq,
      h.head?_eq_feed_iff]
  | @foreign xs rest c s hNil hxs hc h ih =>
    have hNone : ¬ (c = '\n' ∨ c = '\r' ∧ s.head? ≠ some '\n') := by
      rintro (rfl | ⟨rfl, -⟩)
      · exact absurd hc (by decide)
      · exact absurd hc (by decide)
    rw [endings_foreign_append hxs, endings, if_neg hNone, Nat.add_zero, ih]

/-! ## Folding -/

theorem count_foldNewlines (s : Text) : (foldNewlines s).count '\n' = endings '\n' '\r' s := by
  fun_induction foldNewlines s with
  | case1 => rfl
  | case2 rest ih => simp [endings, ih]
  | case3 c rest hNot ih =>
    have hHead : c = '\r' → rest.head? ≠ some '\n' := by
      intro hc hHead
      obtain ⟨tail, rfl⟩ := List.head?_eq_some_iff.mp hHead
      exact hNot tail hc rfl
    rw [List.count_cons, ih, endings]
    by_cases hc : c = '\r'
    · simp [hc, hHead hc]
    · simp [hc]

theorem filter_foldNewlines (s : Text) :
    (foldNewlines s).filter (· != '\n') = s.filter fun c => c != '\n' && c != '\r' := by
  fun_induction foldNewlines s with
  | case1 => rfl
  | case2 rest ih => simpa using ih
  | case3 c rest hNot ih =>
    by_cases hc : c = '\r'
    · simpa [hc] using ih
    · simp [List.filter_cons, hc, ih]

theorem getLast?_foldNewlines (s : Text) :
    (foldNewlines s).getLast? = s.getLast?.map fun c => if c = '\r' then '\n' else c := by
  fun_induction foldNewlines s with
  | case1 => rfl
  | case2 rest ih =>
    rw [List.getLast?_cons, ih, List.getLast?_cons, List.getLast?_cons]
    cases rest.getLast? <;> simp
  | case3 c rest hNot ih =>
    rw [List.getLast?_cons, ih, List.getLast?_cons]
    cases rest.getLast? <;> simp

/-- The last line is empty if and only if the text is empty or ends with a line end. -/
theorem openLine_eq_nil_iff :
    openLine s = [] ↔ (foldNewlines s).getLast?.getD '\n' = '\n' := by
  rw [openLine, List.rtakeWhile_eq_nil_iff, getLast?_foldNewlines]
  cases s using List.reverseRecOn with
  | nil => simp
  | append_singleton s d =>
    by_cases hd : d = '\r' <;> simp [hd]

/-! ## Lines -/

/-- Every text is written from its lines: some closed ones, and perhaps an open one that is not
empty. -/
theorem exists_unlines (s : Text) :
    ∃ (ls : List Text) (last : Option Text), s = unlines ls ++ last.getD [] ∧
      (∀ l ∈ ls ++ last.toList, '\n' ∉ l) ∧ last ≠ some [] := by
  induction s with
  | nil => exact ⟨[], none, rfl, by simp, by simp⟩
  | cons c s ih =>
    obtain ⟨ls, last, rfl, h, hLast⟩ := ih
    by_cases hc : c = '\n'
    · exact ⟨[] :: ls, last, by simp [hc], by simpa using h, hLast⟩
    · -- The character belongs to the first line, which is the open one if no other is there.
      cases ls with
      | nil =>
        refine ⟨[], some (c :: last.getD []), rfl, ?_, by simp⟩
        cases last <;> simp_all [eq_comm]
      | cons l ls => exact ⟨(c :: l) :: ls, last, by simp, by simpa [Ne.symm hc] using h, hLast⟩

theorem filter_ne_feed (hl : '\n' ∉ l) : l.filter (· != '\n') = l :=
  List.filter_eq_self.mpr (Text.bne_of_not_mem hl)

theorem filter_unlines {ls : List Text} (h : ∀ l ∈ ls, '\n' ∉ l) :
    (unlines ls).filter (· != '\n') = ls.flatten := by
  induction ls with
  | nil => rfl
  | cons l ls ih =>
    rw [unlines_cons, List.filter_append, List.filter_cons_of_neg (by simp),
      filter_ne_feed (h l List.mem_cons_self), ih fun m hm => h m (List.mem_cons_of_mem l hm),
      List.flatten_cons]

theorem count_unlines {ls : List Text} (h : ∀ l ∈ ls, '\n' ∉ l) :
    (unlines ls).count '\n' = ls.length := by
  induction ls with
  | nil => rfl
  | cons l ls ih =>
    rw [unlines_cons, List.count_append, List.count_cons_self,
      List.count_eq_zero.mpr (h l List.mem_cons_self),
      ih fun m hm => h m (List.mem_cons_of_mem l hm), Nat.zero_add, List.length_cons]

theorem getLast?_unlines (ls : List Text) : (unlines ls).getLast?.getD '\n' = '\n' := by
  cases ls using List.reverseRecOn with
  | nil => simp
  | append_singleton ls l => simp

theorem flatten_linesOf (s : Text) : (linesOf s).flatten = s.filter (· != '\n') := by
  obtain ⟨ls, last, rfl, h, hLast⟩ := exists_unlines s
  have hClosed := filter_unlines fun l hl => h l (List.mem_append_left _ hl)
  rw [linesOf_unlines_append h hLast, List.flatten_append, List.filter_append, hClosed]
  cases last with
  | none => rfl
  | some l => simp [filter_ne_feed (h l (by simp))]

/-- There is a line for each line feed, and one more unless the last character is one. -/
theorem length_linesOf (s : Text) :
    (linesOf s).length = s.count '\n' + if s.getLast?.getD '\n' = '\n' then 0 else 1 := by
  obtain ⟨ls, last, rfl, h, hLast⟩ := exists_unlines s
  have hClosed := count_unlines fun l hl => h l (List.mem_append_left _ hl)
  rw [linesOf_unlines_append h hLast, List.length_append, List.count_append, hClosed]
  cases last with
  | none =>
    rw [Option.getD_none, List.append_nil, if_pos (getLast?_unlines ls)]
    rfl
  | some l =>
    have hl := h l (by simp)
    obtain ⟨m, c, rfl⟩ := (List.eq_nil_or_concat l).resolve_left fun hNil => hLast (by rw [hNil])
    have hc : c ≠ '\n' := fun heq => hl (by simp [heq])
    rw [Option.getD_some, List.count_eq_zero.mpr hl,
      if_neg (by simpa [← List.append_assoc] using hc)]
    rfl

/-! ## Through octets -/

theorem unmarked_withoutMark (content : Octets) : Unmarked content (withoutMark content) := by
  unfold withoutMark
  split
  · rename_i hCut
    exact .cut (List.isPrefixOf_iff_prefix.mp hCut)
  · rename_i hCut
    split
    · rename_i hMarked
      obtain ⟨octets, rfl⟩ := List.isPrefixOf_iff_prefix.mp hMarked
      rw [List.drop_left]
      exact .marked octets
    · rename_i hMarked
      exact .plain (mt List.isPrefixOf_iff_prefix.mpr hCut)
        (mt List.isPrefixOf_iff_prefix.mpr hMarked)

/-- What a mark takes away, whole or cut, holds no octet below 0x80. -/
theorem Unmarked.exists_append {octets : Octets} (h : Unmarked content octets) :
    ∃ mark, content = mark ++ octets ∧ ∀ b ∈ mark, 0x80 ≤ b.toNat := by
  have hMark : ∀ b ∈ byteOrderMark, 0x80 ≤ b.toNat := by
    intro b hb
    simp only [byteOrderMark, List.mem_cons, List.not_mem_nil, or_false] at hb
    rcases hb with rfl | rfl | rfl <;> decide
  cases h with
  | cut hCut => exact ⟨content, by simp, fun b hb => hMark b (hCut.subset hb)⟩
  | marked => exact ⟨byteOrderMark, rfl, hMark⟩
  | plain => exact ⟨[], rfl, by simp⟩

theorem flatten_lines_ofOctets (path : Text) (content : Octets) :
    (SourceFile.ofOctets path content).lines.flatten =
      (Octets.decode (withoutMark content)).filter fun c => c != '\n' && c != '\r' := by
  rw [SourceFile.ofOctets, flatten_linesOf, filter_foldNewlines]

theorem filter_lines_ofOctets (path : Text) (content : Octets) :
    (SourceFile.ofOctets path content).lines.flatten.filter (fun c => decide (c.toNat < 0x80)) =
      (content.filter fun b => b != 0x0A && b != 0x0D && decide (b.toNat < 0x80)).map
        fun b => Char.ofNat b.toNat := by
  obtain ⟨mark, hContent, hMark⟩ := (unmarked_withoutMark content).exists_append
  have hLow := filter_foreign_append hMark (withoutMark content)
  rw [← hContent] at hLow
  rw [flatten_lines_ofOctets, List.filter_comm, (sameSkeleton_decode _).filter_eq, List.filter_map,
    ← List.filter_filter, hLow]
  congr 1
  refine List.filter_congr fun b hb => ?_
  have hb : b.toNat < 0x80 := by simpa using (List.mem_filter.mp hb).2
  rw [Bool.eq_iff_iff]
  simp [ofNat_toNat_eq_feed_iff hb, ofNat_toNat_eq_return_iff hb]

/-- Every plain character other than the line ends occurs in the lines as often as its octet in the
file. -/
theorem count_lines_ofOctets (path : Text) (content : Octets) {d : UInt8} (hd : d.toNat < 0x80)
    (hFeed : d ≠ 0x0A) (hReturn : d ≠ 0x0D) :
    (SourceFile.ofOctets path content).lines.flatten.count (Char.ofNat d.toNat) =
      content.count d := by
  have hChar : (Char.ofNat d.toNat).toNat < 0x80 := (toNat_ofNat_toNat hd).trans_lt hd
  have hLines : ((SourceFile.ofOctets path content).lines.flatten.filter
      fun c => decide (c.toNat < 0x80)).count (Char.ofNat d.toNat) =
        (SourceFile.ofOctets path content).lines.flatten.count (Char.ofNat d.toNat) :=
    List.count_filter (by simpa using hChar)
  have hContent : (content.filter fun b =>
      b != 0x0A && b != 0x0D && decide (b.toNat < 0x80)).count d = content.count d :=
    List.count_filter (by simp [hd, hFeed, hReturn])
  rw [← hLines, filter_lines_ofOctets, ← hContent, List.count_eq_countP, List.countP_map,
    List.count_eq_countP]
  refine List.countP_congr fun b hb => ?_
  have hb : b.toNat < 0x80 := by
    simp only [List.mem_filter, Bool.and_eq_true, decide_eq_true_eq] at hb
    exact hb.2.2
  simp [ofNat_toNat_inj hb hd]

/-- A file has a line for each line end, and one more if something follows the last of them. -/
theorem length_lines_ofOctets (path : Text) (content : Octets) :
    (SourceFile.ofOctets path content).lines.length =
      endings 0x0A 0x0D content +
        if openLine (Octets.decode (withoutMark content)) = [] then 0 else 1 := by
  obtain ⟨mark, hContent, hMark⟩ := (unmarked_withoutMark content).exists_append
  have hEndings := endings_foreign_append hMark (withoutMark content)
  rw [← hContent] at hEndings
  rw [SourceFile.ofOctets, length_linesOf, count_foldNewlines, (sameSkeleton_decode _).endings_eq,
    hEndings]
  simp only [openLine_eq_nil_iff]

theorem sum_braceDelta (ls : List Text) :
    (ls.map Line.braceDelta).sum = Line.braceDelta ls.flatten := by
  induction ls with
  | nil => rfl
  | cons l ls ih => rw [List.map_cons, List.sum_cons, ih, List.flatten_cons, Line.braceDelta_append]

/-- **Ill-formed octets take no structure with them.** Any content is read. Its octets without the
byte-order mark have one segmentation, and the lines show a replacement character for each
ill-formed stretch of it. No line holds a line feed or a carriage return; the characters below 0x80
of the lines are the octets below 0x80, line endings apart; there is a line for each line ending and
one for what stands behind the last ending; and the braces of the lines are those of the octets. -/
theorem SourceFile.ofOctets_skeleton (path : Text) (content : Octets) :
    ∃ (octets : Octets) (us : List (Option Char)) (lines : List Text),
      Unmarked content octets ∧ (∀ vs, Octets.Segmented octets vs ↔ vs = us) ∧
      ofOctets path content = ⟨path, lines⟩ ∧
      lines.flatten =
        (us.map (·.getD Octets.replacement)).filter (fun c => c != '\n' && c != '\r') ∧
      (∀ l ∈ lines, '\n' ∉ l ∧ '\r' ∉ l) ∧
      lines.flatten.filter (fun c => decide (c.toNat < 0x80)) =
        (content.filter fun b => b != 0x0A && b != 0x0D && decide (b.toNat < 0x80)).map
          (fun b => Char.ofNat b.toNat) ∧
      lines.length = endings 0x0A 0x0D content +
        (if openLine (us.map (·.getD Octets.replacement)) = [] then 0 else 1) ∧
      (lines.map Line.braceDelta).sum =
        (content.count 0x7B : Int) - (content.count 0x7D : Int) := by
  have hEnding : ∀ l ∈ (ofOctets path content).lines, ∀ c ∈ l, c ≠ '\n' ∧ c ≠ '\r' := by
    intro l hl c hc
    have hMem := List.mem_flatten.mpr ⟨l, hl, hc⟩
    rw [flatten_lines_ofOctets] at hMem
    simpa using (List.mem_filter.mp hMem).2
  refine ⟨withoutMark content, Octets.units (withoutMark content), (ofOctets path content).lines,
    unmarked_withoutMark content, fun vs => Octets.segmented_iff, rfl,
    flatten_lines_ofOctets path content, fun l hl => ⟨fun hFeed => ?_, fun hReturn => ?_⟩,
    filter_lines_ofOctets path content, length_lines_ofOctets path content, ?_⟩
  · exact (hEnding l hl _ hFeed).1 rfl
  · exact (hEnding l hl _ hReturn).2 rfl
  · rw [sum_braceDelta, Line.braceDelta,
      ← count_lines_ofOctets path content (d := 0x7B) (by decide) (by decide) (by decide),
      ← count_lines_ofOctets path content (d := 0x7D) (by decide) (by decide) (by decide)]
    rfl

/-- Characters that are cut short in front of a brace, a line ending and the end of the file. -/
example :
    (SourceFile.ofOctets [] [0xEF, 0xBB, 0x7B, 0xF0, 0x9F, 0x94, 0x0D, 0x0A, 0xE0, 0x80, 0x7D, 0x0D,
      0xC3]).lines = ["\uFFFD\x7b\uFFFD".toList, "\uFFFD\uFFFD\x7d".toList, "\uFFFD".toList] := by
  decide

end PluginMerge
