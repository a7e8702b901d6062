import Mathlib.Data.List.TakeWhile
import PluginMerge.Proofs.Attribution

/-!
# Which directives are carried out

A directive is carried out if its first parenthesised group, cut at commas and spaces, has the kind
as its first word and three words behind it. It does not matter how many separators stand around and
between the words, what follows the group, or which parentheses are in it.

* `Text.words_append`: a word, the separators behind it, and any rest.
* `Directive.group?_eq_some_iff`: the group by its two parentheses.
* `Directive.isResourceId_resourceId`: the identifier is the leftmost window of four digits.
* `Bundle.expand_grammar`: the lines that are replaced, and what replaces them.
-/

namespace PluginMerge

variable {p : Char → Bool} {x : Char} {s w l front rest g u r : Text}

/-! ## Words and separators -/

namespace Text

theorem words_cons_of_pos (hx : p x = true) (rest : Text) : words p (x :: rest) = words p rest := by
  have hCut : ([] ++ x :: rest).splitOnP p = [] :: rest.splitOnP p :=
    List.splitOnP_append_cons_of_forall_mem (by simp) x hx rest
  rw [List.nil_append] at hCut
  rw [words, hCut, List.filter_cons_of_neg (by simp), words]

theorem words_separators_append (hs : ∀ c ∈ s, p c = true) (rest : Text) :
    words p (s ++ rest) = words p rest := by
  induction s with
  | nil => rfl
  | cons c s ih =>
    rw [List.cons_append, words_cons_of_pos (hs c List.mem_cons_self),
      ih fun d hd => hs d (List.mem_cons_of_mem c hd)]

theorem words_append (hw : ∀ c ∈ w, p c = false) (hNil : w ≠ []) (hs : ∀ c ∈ s, p c = true)
    (hGap : s ≠ []) (rest : Text) : words p (w ++ (s ++ rest)) = w :: words p rest := by
  obtain ⟨c, s, rfl⟩ := List.exists_cons_of_ne_nil hGap
  have hCut : (w ++ c :: (s ++ rest)).splitOnP p = w :: (s ++ rest).splitOnP p :=
    List.splitOnP_append_cons_of_forall_mem hw c (hs c List.mem_cons_self) _
  rw [List.cons_append, words, hCut, List.filter_cons_of_pos (by simpa using hNil)]
  congr 1
  exact words_separators_append (fun d hd => hs d (List.mem_cons_of_mem c hd)) rest

theorem words_append_separators (hw : ∀ c ∈ w, p c = false) (hNil : w ≠ [])
    (hs : ∀ c ∈ s, p c = true) : words p (w ++ s) = [w] := by
  by_cases hGap : s = []
  · rw [hGap, List.append_nil, words, List.splitOnP_eq_singleton hw,
      List.filter_cons_of_pos (by simpa using hNil), List.filter_nil]
  · have hEmpty := words_append hw hNil hs hGap []
    rwa [List.append_nil] at hEmpty

/-! ## Cutting at the first occurrence -/

theorem takeWhile_ne_append (h : x ∉ front) (rest : Text) :
    (front ++ x :: rest).takeWhile (· != x) = front := by
  rw [List.takeWhile_append_of_pos (bne_of_not_mem h), List.takeWhile_cons_of_neg (by simp),
    List.append_nil]

theorem dropWhile_ne_append (h : x ∉ front) (rest : Text) :
    (front ++ x :: rest).dropWhile (· != x) = x :: rest := by
  rw [List.dropWhile_append_of_pos (bne_of_not_mem h), List.dropWhile_cons_of_neg (by simp)]

end Text

namespace Directive

theorem group?_append (hFront : '(' ∉ front) (hGroup : ')' ∉ g) (rest : Text) :
    group? (front ++ '(' :: (g ++ ')' :: rest)) = some g := by
  rw [group?, Text.dropWhile_ne_append hFront]
  simp [Text.takeWhile_ne_append hGroup]

/-- The group of a line is the text between its first opening parenthesis and the first closing one
behind that, wherever other parentheses stand. -/
theorem group?_eq_some_iff :
    group? l = some g ↔
      ∃ front rest, l = front ++ '(' :: (g ++ ')' :: rest) ∧ '(' ∉ front ∧ ')' ∉ g := by
  constructor
  · intro h
    by_cases hOpen : '(' ∈ l
    · obtain ⟨front, behind, rfl, hFront⟩ := List.eq_append_cons_of_mem hOpen
      rw [group?, Text.dropWhile_ne_append hFront] at h
      simp only [Option.ite_none_right_eq_some, List.contains_iff_mem] at h
      obtain ⟨hClose, hGroup⟩ := h
      obtain ⟨inner, rest, rfl, hInner⟩ := List.eq_append_cons_of_mem hClose
      rw [Text.takeWhile_ne_append hInner] at hGroup
      cases hGroup
      exact ⟨front, rest, rfl, hFront, hInner⟩
    · have hNone : l.dropWhile (· != '(') = [] :=
        List.dropWhile_eq_nil_iff.mpr (Text.bne_of_not_mem hOpen)
      rw [group?, hNone] at h
      cases h
  · rintro ⟨front, rest, rfl, hFront, hGroup⟩
    exact group?_append hFront hGroup rest

theorem indent_append (hFront : '/' ∉ front) (rest : Text) :
    indent (front ++ '/' :: rest) = front := by
  rw [indent, if_pos (by simp), Text.takeWhile_ne_append hFront]

/-! ## The identifier -/

/-- Four digits stand at position `i`. -/
def FourDigitsAt (u : Text) (i : Nat) : Prop :=
  ((u.drop i).take 4).length = 4 ∧ ∀ c ∈ (u.drop i).take 4, c.isDigit = true

/-- The identifier in an address: the four digits at the least position, or the text for what
nobody gave. -/
def IsResourceId (u r : Text) : Prop :=
  (∃ i, FourDigitsAt u i ∧ (∀ j, j < i → ¬ FourDigitsAt u j) ∧ r = (u.drop i).take 4) ∨
    (∀ i, ¬ FourDigitsAt u i) ∧ r = unknown

theorem fourDigitsAt_zero_iff :
    FourDigitsAt u 0 ↔ (u.take 4).length = 4 ∧ (u.take 4).all Char.isDigit = true := by
  rw [FourDigitsAt, List.drop_zero, List.all_eq_true]

/-- The number of a resource satisfies its description: the first four digits in a row, or the word
for an unknown one. -/
theorem isResourceId_resourceId (u : Text) : IsResourceId u (resourceId u) := by
  induction u with
  | nil => exact Or.inr ⟨fun i h => absurd h.1 (by simp), rfl⟩
  | cons c u ih =>
    by_cases hHere : FourDigitsAt (c :: u) 0
    · have hDigits : fourDigits? (c :: u) = some ((c :: u).take 4) := by
        rw [fourDigits?]
        exact if_pos (fourDigitsAt_zero_iff.mp hHere)
      refine Or.inl ⟨0, hHere, fun j hj => absurd hj (Nat.not_lt_zero j), ?_⟩
      rw [resourceId, hDigits]
      rfl
    · have hDigits : fourDigits? (c :: u) = fourDigits? u := by
        rw [fourDigits?]
        exact if_neg (mt fourDigitsAt_zero_iff.mpr hHere)
      rw [resourceId, hDigits, ← resourceId]
      -- Positions of the rest are one less than those of the whole text.
      rcases ih with ⟨i, hi, hBefore, hId⟩ | ⟨hNone, hId⟩
      · refine Or.inl ⟨i + 1, hi, fun j hj => ?_, hId⟩
        cases j with
        | zero => exact hHere
        | succ j => exact hBefore j (by omega)
      · refine Or.inr ⟨fun i => ?_, hId⟩
        cases i with
        | zero => exact hHere
        | succ i => exact hNone i

/-! ## The words of a line -/

/-- The words of the group between the first opening parenthesis and the first closing one behind
it: what is left between commas and spaces, without empty pieces. -/
def Grouped (l : Text) (ws : List Text) : Prop :=
  ∃ front g rest, l = front ++ '(' :: (g ++ ')' :: rest) ∧ '(' ∉ front ∧ ')' ∉ g ∧
    (g.splitOnP fun c => c == ',' || c == ' ').filter (fun w => !w.isEmpty) = ws

/-- A word of a directive. It may hold parentheses that open. -/
def IsWord (w : Text) : Prop := w ≠ [] ∧ ∀ c ∈ w, c ≠ ',' ∧ c ≠ ' ' ∧ c ≠ ')'

def IsGap (s : Text) : Prop := ∀ c ∈ s, c = ',' ∨ c = ' '

instance (s : Text) : Decidable (IsGap s) := List.decidableBAll _ s

instance (w : Text) : Decidable (IsWord w) :=
  haveI : Decidable (∀ c ∈ w, c ≠ ',' ∧ c ≠ ' ' ∧ c ≠ ')') := List.decidableBAll _ w
  inferInstanceAs (Decidable (_ ∧ _))

theorem IsWord.not_isSeparator (h : IsWord w) : ∀ c ∈ w, isSeparator c = false := by
  intro c hc
  obtain ⟨hComma, hSpace, -⟩ := h.2 c hc
  simp [isSeparator, hComma, hSpace]

theorem IsGap.isSeparator (h : IsGap s) : ∀ c ∈ s, isSeparator c = true := by
  intro c hc
  rcases h c hc with rfl | rfl <;> rfl

theorem IsGap.not_mem (h : IsGap s) : ')' ∉ s := by
  intro hMem
  rcases h ')' hMem with heq | heq <;> exact absurd heq (by decide)

/-- A directive is accepted if and only if the words of its group are the kind and three more. -/
theorem parse_eq_ok_iff_grouped {info : PluginInfo} :
    parse l = .ok info ↔
      Grouped l [pluginInfoKind, info.author, info.pluginUrl, info.sourceUrl] := by
  rw [parse_eq_ok_iff, arguments]
  constructor
  · intro h
    split at h
    · rename_i g hGroup
      obtain ⟨front, rest, hl, hFront, hg⟩ := group?_eq_some_iff.mp hGroup
      exact ⟨front, g, rest, hl, hFront, hg, h⟩
    · cases h
  · rintro ⟨front, g, rest, rfl, hFront, hg, hWords⟩
    rw [group?_append hFront hg]
    exact hWords

/-- A directive as it is written, with the separators `s₀` to `s₄` around and between its words and
any text behind the group. -/
def spelled (indent s₀ s₁ a s₂ u s₃ v s₄ rest : Text) : Text :=
  indent ++ Line.insertMark ++ s₀ ++ pluginInfoKind ++ s₁ ++ a ++ s₂ ++ u ++ s₃ ++ v ++ s₄ ++
    ")".toList ++ rest

variable {before a v s₀ s₁ s₂ s₃ s₄ : Text}

theorem spelled_eq (before s₀ s₁ a s₂ u s₃ v s₄ rest : Text) :
    spelled before s₀ s₁ a s₂ u s₃ v s₄ rest =
      before ++ "//OX.INSERT".toList ++ '(' ::
        (s₀ ++ (pluginInfoKind ++ (s₁ ++ (a ++ (s₂ ++ (u ++ (s₃ ++ (v ++ s₄))))))) ++
          ')' :: rest) := by
  simp only [spelled, List.append_assoc]
  rfl

/-- Gaps of any kind and length between the words do not matter. -/
theorem words_spelled (hWords : ∀ w ∈ [a, u, v], IsWord w)
    (hGaps : ∀ s ∈ [s₁, s₂, s₃], s ≠ [] ∧ IsGap s) (hEnds : ∀ s ∈ [s₀, s₄], IsGap s) :
    Text.words isSeparator
        (s₀ ++ (pluginInfoKind ++ (s₁ ++ (a ++ (s₂ ++ (u ++ (s₃ ++ (v ++ s₄)))))))) =
      [pluginInfoKind, a, u, v] := by
  have hKind : IsWord pluginInfoKind := by decide
  have ha := hWords a (by simp)
  have hu := hWords u (by simp)
  have hv := hWords v (by simp)
  have hs₁ := hGaps s₁ (by simp)
  have hs₂ := hGaps s₂ (by simp)
  have hs₃ := hGaps s₃ (by simp)
  rw [Text.words_separators_append (hEnds s₀ (by simp)).isSeparator,
    Text.words_append hKind.not_isSeparator hKind.1 hs₁.2.isSeparator hs₁.1,
    Text.words_append ha.not_isSeparator ha.1 hs₂.2.isSeparator hs₂.1,
    Text.words_append hu.not_isSeparator hu.1 hs₃.2.isSeparator hs₃.1,
    Text.words_append_separators hv.not_isSeparator hv.1 (hEnds s₄ (by simp)).isSeparator]

/-- A directive in the spelled form has the words it was spelled with. -/
theorem grouped_spelled (hBefore : '(' ∉ before) (hWords : ∀ w ∈ [a, u, v], IsWord w)
    (hGaps : ∀ s ∈ [s₁, s₂, s₃], s ≠ [] ∧ IsGap s) (hEnds : ∀ s ∈ [s₀, s₄], IsGap s)
    (rest : Text) :
    Grouped (spelled before s₀ s₁ a s₂ u s₃ v s₄ rest) [pluginInfoKind, a, u, v] := by
  have hFront : '(' ∉ before ++ "//OX.INSERT".toList := by
    rw [List.mem_append, not_or]
    exact ⟨hBefore, by decide⟩
  have hWord : ∀ w ∈ [a, u, v], ')' ∉ w := fun w hw hMem => ((hWords w hw).2 ')' hMem).2.2 rfl
  have hGap : ∀ s ∈ [s₁, s₂, s₃], ')' ∉ s := fun s hs => (hGaps s hs).2.not_mem
  have hEnd : ∀ s ∈ [s₀, s₄], ')' ∉ s := fun s hs => (hEnds s hs).not_mem
  have hKind : ')' ∉ pluginInfoKind := by decide
  refine ⟨_, _, rest, spelled_eq before s₀ s₁ a s₂ u s₃ v s₄ rest, hFront, ?_,
    words_spelled hWords hGaps hEnds⟩
  simp only [List.mem_append, not_or]
  exact ⟨hEnd s₀ (by simp), hKind, hGap s₁ (by simp), hWord a (by simp), hGap s₂ (by simp),
    hWord u (by simp), hGap s₃ (by simp), hWord v (by simp), hEnd s₄ (by simp)⟩

theorem indent_spelled (hBefore : '/' ∉ before) (s₀ s₁ a s₂ u s₃ v s₄ rest : Text) :
    indent (spelled before s₀ s₁ a s₂ u s₃ v s₄ rest) = before := by
  rw [spelled_eq, List.append_assoc]
  exact indent_append hBefore _

end Directive

/-- **The directives that are carried out.** A directive written with any separators around and
between its words is replaced by the attribute with its author and the identifier in its address,
behind the text in front of the directive. A line is replaced only if its first group has the kind
and three words; any other line is dropped, and the bundle stays as it is. -/
theorem Bundle.expand_grammar (b : Bundle) (c : Cursor) :
    (∀ indent s₀ s₁ a s₂ u s₃ v s₄ rest : Text, '/' ∉ indent ∧ '(' ∉ indent →
      (∀ w ∈ [a, u, v], Directive.IsWord w) → (∀ s ∈ [s₁, s₂, s₃], s ≠ [] ∧ Directive.IsGap s) →
      (∀ s ∈ [s₀, s₄], Directive.IsGap s) →
      ∃ r, Directive.IsResourceId u r ∧
        (b.expand c (Directive.spelled indent s₀ s₁ a s₂ u s₃ v s₄ rest)).value.2 =
          some (indent ++ "[Info(\"".toList ++ b.name ++ "\", \"".toList ++ a ++ "\", \"".toList ++
            b.version ++ "\", ResourceId = ".toList ++ r ++ ")]".toList)) ∧
    ∀ l,
      ((b.expand c l).value.2.isSome = true ↔
        ∃ a u v, Directive.Grouped l [Directive.pluginInfoKind, a, u, v]) ∧
      ((¬ ∃ a u v, Directive.Grouped l [Directive.pluginInfoKind, a, u, v]) →
        (b.expand c l).value = (b, none)) := by
  refine ⟨?_, fun l => ?_⟩
  · intro indent s₀ s₁ a s₂ u s₃ v s₄ rest hIndent hWords hGaps hEnds
    have hParse : Directive.parse (Directive.spelled indent s₀ s₁ a s₂ u s₃ v s₄ rest) =
        .ok ⟨a, u, v⟩ :=
      Directive.parse_eq_ok_iff_grouped.mpr
        (Directive.grouped_spelled hIndent.2 hWords hGaps hEnds rest)
    refine ⟨Directive.resourceId u, Directive.isResourceId_resourceId u, ?_⟩
    rw [value_expand_ok hParse, Directive.indent_spelled hIndent.1]
    rfl
  · cases hParse : Directive.parse l with
    | ok info =>
      have hGrouped := Directive.parse_eq_ok_iff_grouped.mp hParse
      rw [value_expand_ok hParse]
      exact ⟨iff_of_true rfl ⟨_, _, _, hGrouped⟩, fun hNone => absurd ⟨_, _, _, hGrouped⟩ hNone⟩
    | error reason =>
      have hNone : ¬ ∃ a u v, Directive.Grouped l [Directive.pluginInfoKind, a, u, v] := by
        rintro ⟨a, u, v, hGrouped⟩
        have hOk : Directive.parse l = .ok ⟨a, u, v⟩ :=
          Directive.parse_eq_ok_iff_grouped.mpr hGrouped
        rw [hParse] at hOk
        cases hOk
      rw [value_expand_error hParse]
      exact ⟨iff_of_false (by simp) hNone, fun _ => rfl⟩

/-- A parenthesis in a word, separators at both ends of the group, another group behind it, and an
address with more than four digits in a row. -/
theorem Bundle.expand_grammar_nested :
    let b : Bundle := { name := "P".toList, version := "1".toList }
    let c : Cursor := { path := "A.cs".toList }
    let url : Text := "r/123/56789/1234".toList
    let line := Directive.spelled "\t ".toList ", ".toList ",,".toList "An(n".toList " ".toList url
      ", ".toList "s".toList " ".toList "; f(x)".toList
    line = "\t //OX.INSERT(, PluginInfo,,An(n r/123/56789/1234, s ); f(x)".toList ∧
      (∃ r, Directive.IsResourceId url r ∧ (b.expand c line).value.2 =
        some ("\t ".toList ++ "[Info(\"".toList ++ b.name ++ "\", \"".toList ++ "An(n".toList ++
          "\", \"".toList ++ b.version ++ "\", ResourceId = ".toList ++ r ++ ")]".toList)) ∧
      (b.expand c line).value.2 =
        some "\t [Info(\"P\", \"An(n\", \"1\", ResourceId = 5678)]".toList ∧
      ∃ a u v, Directive.Grouped line [Directive.pluginInfoKind, a, u, v] := by
  intro b c url line
  have hGrammar := expand_grammar b c
  have hLine : (b.expand c line).value.2 =
      some "\t [Info(\"P\", \"An(n\", \"1\", ResourceId = 5678)]".toList := by
    decide +kernel
  have hFirst := hGrammar.1 "\t ".toList ", ".toList ",,".toList "An(n".toList " ".toList url
    ", ".toList "s".toList " ".toList "; f(x)".toList (by decide) (by decide +kernel) (by decide)
    (by decide)
  exact ⟨by decide +kernel, hFirst, hLine, (hGrammar.2 line).1.mp (by rw [hLine]; rfl)⟩

end PluginMerge
