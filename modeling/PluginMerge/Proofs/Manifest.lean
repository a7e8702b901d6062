import PluginMerge.Proofs.ImportGrammar
import PluginMerge.Tool

/-!
# The version in a manifest

The version is what the first assignment to `version` at the start of a line gives. An assignment
may run over several lines: blanks, line feeds among them, may stand in front of the word and around
the sign of equality, and the value ends only at a quote. What a position gives does not depend on
the text behind the closing quote.

* `Manifest.Assignment`: the text of an assignment, up to its closing quote.
* `Manifest.versionHere?_eq_some_iff`: what the start of a text gives.
* `Manifest.Hit`, `Manifest.LeastHit`: positions with an assignment, and the first of them.
* `Manifest.version?_eq_some_iff`: the search finds the value of the first one.
* `Manifest.LeastHit.append`: the text behind an assignment may change.
* `manifestVersion_leftmost`: the version of a manifest.
-/

namespace PluginMerge

namespace Manifest

open Text

variable {u v w m s front rest : Text} {p : Nat} {c : Char}

/-! ## Assignments -/

/-- The text is an assignment of a value: blanks, the word, blanks, the sign of equality, blanks,
and the value between quotes, which need not be of the same kind. The value is not empty and holds
no quote. -/
def Assignment (m v : Text) : Prop :=
  ∃ w₁ w₂ w₃ q q', m = w₁ ++ "version".toList ++ (w₂ ++ "=".toList ++ (w₃ ++ q :: v ++ [q'])) ∧
    (∀ c ∈ w₁, isBlank c = true) ∧ (∀ c ∈ w₂, isBlank c = true) ∧ (∀ c ∈ w₃, isBlank c = true) ∧
    isQuote q = true ∧ isQuote q' = true ∧ v ≠ [] ∧ ∀ c ∈ v, isQuote c = false

theorem isBlank_of_isQuote (h : isQuote c = true) : isBlank c = false := by
  simp only [isQuote, Bool.or_eq_true, beq_iff_eq] at h
  rcases h with rfl | rfl <;> decide

theorem isQuote_eq_false_of_all (h : (s.all fun c => !isQuote c) = true) :
    ∀ c ∈ s, isQuote c = false := by
  intro c hc
  simpa using List.all_eq_true.mp h c hc

/-- A quoted value ends at the first quote of either kind and is not empty. -/
theorem quotedValue?_eq_some_iff :
    quotedValue? u = some v ↔ ∃ q q' rest, u = q :: v ++ q' :: rest ∧ isQuote q = true ∧
      isQuote q' = true ∧ v ≠ [] ∧ ∀ c ∈ v, isQuote c = false := by
  cases u with
  | nil => simp [quotedValue?]
  | cons q tail =>
    constructor
    · intro h
      obtain ⟨hKept, hValue⟩ := Option.ite_none_right_eq_some.mp h
      simp only [Bool.and_eq_true, Bool.not_eq_true', List.isEmpty_eq_false_iff] at hKept
      obtain ⟨⟨hq, hNil⟩, hAny⟩ := hKept
      obtain ⟨c, hc, hQuote⟩ := List.any_eq_true.mp hAny
      have hBehind : tail.dropWhile (!isQuote ·) ≠ [] := by
        intro hNone
        have hAll := List.dropWhile_eq_nil_iff.mp hNone c hc
        rw [hQuote] at hAll
        cases hAll
      obtain ⟨q', rest, hDrop⟩ := List.exists_cons_of_ne_nil hBehind
      have hq' := List.head?_dropWhile_not (!isQuote ·) tail
      rw [hDrop, List.head?_cons] at hq'
      cases hValue
      refine ⟨q, q', rest, ?_, hq, by simpa using hq', hNil, fun c hc => ?_⟩
      · rw [List.cons_append, ← hDrop, List.takeWhile_append_dropWhile]
      · simpa using List.mem_takeWhile_imp hc
    · rintro ⟨q, q', rest, heq, hq, hq', hNil, hPlain⟩
      cases heq
      have hValue : (v ++ q' :: rest).takeWhile (!isQuote ·) = v := by
        rw [List.takeWhile_append_of_pos fun c hc => by simp [hPlain c hc],
          List.takeWhile_cons_of_neg (by simp [hq']), List.append_nil]
      simp [quotedValue?, hValue, hq, hq', hNil]

theorem quotedValue?_skipBlanks_iff :
    quotedValue? (skipBlanks s) = some v ↔ ∃ w₃ q q' rest, s = w₃ ++ q :: v ++ q' :: rest ∧
      (∀ c ∈ w₃, isBlank c = true) ∧ isQuote q = true ∧ isQuote q' = true ∧ v ≠ [] ∧
      ∀ c ∈ v, isQuote c = false := by
  rw [quotedValue?_eq_some_iff]
  constructor
  · rintro ⟨q, q', rest, hBehind, hQuoted⟩
    refine ⟨s.takeWhile isBlank, q, q', rest, ?_, fun c hc => List.mem_takeWhile_imp hc, hQuoted⟩
    rw [List.append_assoc, ← hBehind, skipBlanks, List.takeWhile_append_dropWhile]
  · rintro ⟨w₃, q, q', rest, rfl, hw₃, hQuoted⟩
    have hq := isBlank_of_isQuote hQuoted.1
    exact ⟨q, q', rest, dropWhile_isBlank_append hw₃ rfl hq _, hQuoted⟩

theorem after?_version_iff {tail : Text} :
    after? "version".toList (skipBlanks s) = some tail ↔
      ∃ w₁, s = w₁ ++ "version".toList ++ tail ∧ ∀ c ∈ w₁, isBlank c = true :=
  after?_dropWhile_isBlank_iff (c := 'v') rfl (by decide)

theorem after?_equal_iff {tail : Text} :
    after? "=".toList (skipBlanks s) = some tail ↔
      ∃ w₂, s = w₂ ++ "=".toList ++ tail ∧ ∀ c ∈ w₂, isBlank c = true :=
  after?_dropWhile_isBlank_iff (c := '=') rfl (by decide)

/-- What the start of a text gives is the value of an assignment that the text starts with. -/
theorem versionHere?_eq_some_iff : versionHere? u = some v ↔ ∃ m, m <+: u ∧ Assignment m v := by
  constructor
  · intro h
    obtain ⟨s₁, hWord, h⟩ := Option.bind_eq_some_iff.mp h
    obtain ⟨s₂, hSign, hValue⟩ := Option.bind_eq_some_iff.mp h
    obtain ⟨w₁, rfl, hw₁⟩ := after?_version_iff.mp hWord
    obtain ⟨w₂, rfl, hw₂⟩ := after?_equal_iff.mp hSign
    obtain ⟨w₃, q, q', rest, rfl, hw₃, hQuoted⟩ := quotedValue?_skipBlanks_iff.mp hValue
    refine ⟨_, ⟨rest, ?_⟩, w₁, w₂, w₃, q, q', rfl, hw₁, hw₂, hw₃, hQuoted⟩
    simp only [List.append_assoc, List.cons_append, List.nil_append]
  · rintro ⟨m, ⟨rest, rfl⟩, w₁, w₂, w₃, q, q', rfl, hw₁, hw₂, hw₃, hQuoted⟩
    have hWhole : w₁ ++ "version".toList ++ (w₂ ++ "=".toList ++ (w₃ ++ q :: v ++ [q'])) ++ rest =
        w₁ ++ "version".toList ++ (w₂ ++ "=".toList ++ (w₃ ++ q :: v ++ q' :: rest)) := by
      simp only [List.append_assoc, List.cons_append, List.nil_append]
    rw [hWhole]
    refine Option.bind_eq_some_iff.mpr ⟨_, after?_version_iff.mpr ⟨w₁, rfl, hw₁⟩, ?_⟩
    refine Option.bind_eq_some_iff.mpr ⟨_, after?_equal_iff.mpr ⟨w₂, rfl, hw₂⟩, ?_⟩
    exact quotedValue?_skipBlanks_iff.mpr ⟨w₃, q, q', rest, rfl, hw₃, hQuoted⟩

theorem Assignment.ne_nil (h : Assignment m v) : v ≠ [] := by
  obtain ⟨_, _, _, _, _, _, _, _, _, _, _, hNil, _⟩ := h
  exact hNil

theorem Assignment.isQuote_eq_false (h : Assignment m v) : ∀ c ∈ v, isQuote c = false := by
  obtain ⟨_, _, _, _, _, _, _, _, _, _, _, _, hPlain⟩ := h
  exact hPlain

theorem countP_blanks (h : ∀ c ∈ w, isBlank c = true) : w.countP isQuote = 0 := by
  rw [List.countP_eq_zero]
  intro c hc hQuote
  have hBlank := h c hc
  rw [isBlank_of_isQuote hQuote] at hBlank
  cases hBlank

/-- Of the two quotes in an assignment the second one is its last character. -/
theorem Assignment.exists_last (h : Assignment m v) :
    ∃ lead q', m = lead ++ [q'] ∧ lead.countP isQuote = 1 ∧ isQuote q' = true := by
  obtain ⟨w₁, w₂, w₃, q, q', rfl, hw₁, hw₂, hw₃, hq, hq', -, hPlain⟩ := h
  refine ⟨w₁ ++ "version".toList ++ (w₂ ++ "=".toList ++ (w₃ ++ q :: v)), q', ?_, ?_, hq'⟩
  · simp only [List.append_assoc, List.cons_append]
  · have hWord : "version".toList.countP isQuote = 0 := by decide
    have hSign : "=".toList.countP isQuote = 0 := by decide
    have hValue : v.countP isQuote = 0 := by
      rw [List.countP_eq_zero]
      exact fun c hc => by simp [hPlain c hc]
    rw [List.countP_append, List.countP_append, List.countP_append, List.countP_append,
      List.countP_append, List.countP_cons, countP_blanks hw₁, countP_blanks hw₂,
      countP_blanks hw₃, hWord, hSign, hValue, if_pos hq]

/-! ## Positions -/

/-- Position `p` of a text starts a line: it follows a line feed, or it is the start of a text that
starts a line. -/
def StartsLine (lineStart : Bool) (s : Text) : Nat → Prop
  | 0 => lineStart = true
  | k + 1 => s[k]? = some '\n'

instance (lineStart : Bool) (s : Text) (p : Nat) : Decidable (StartsLine lineStart s p) :=
  match p with
  | 0 => inferInstanceAs (Decidable (lineStart = true))
  | k + 1 => inferInstanceAs (Decidable (s[k]? = some '\n'))

/-- At position `p` a line starts with an assignment of `v`. -/
def Hit (s : Text) (p : Nat) (v : Text) : Prop :=
  (p = 0 ∨ s[p - 1]? = some '\n') ∧ ∃ m, m <+: s.drop p ∧ Assignment m v

/-- Position `p` is the first one where a line starts with an assignment, and `v` is its value. -/
def LeastHit (s : Text) (p : Nat) (v : Text) : Prop := Hit s p v ∧ ∀ q < p, ∀ w, ¬ Hit s q w

/-- The grammar of an assignment at a position and the function that looks for one agree. -/
theorem hit_iff : Hit s p v ↔ StartsLine true s p ∧ versionHere? (s.drop p) = some v := by
  rw [versionHere?_eq_some_iff, Hit]
  cases p <;> simp [StartsLine]

theorem forall_not_hit_iff :
    (∀ w, ¬ Hit s p w) ↔ (StartsLine true s p → versionHere? (s.drop p) = none) := by
  constructor
  · intro h hStart
    rw [Option.eq_none_iff_forall_ne_some]
    exact fun w hw => h w (hit_iff.mpr ⟨hStart, hw⟩)
  · intro h w hHit
    obtain ⟨hStart, hw⟩ := hit_iff.mp hHit
    rw [h hStart] at hw
    cases hw

/-- No position has two values. -/
theorem Hit.unique (hv : Hit s p v) (hw : Hit s p w) : v = w :=
  Option.some_inj.mp ((hit_iff.mp hv).2.symm.trans (hit_iff.mp hw).2)

theorem startsLine_cons {lineStart : Bool} :
    StartsLine lineStart (c :: rest) (p + 1) ↔ StartsLine (c == '\n') rest p := by
  cases p <;> simp [StartsLine]

theorem versionHere?_nil : versionHere? [] = none := by
  decide

/-- The search stops at the first position that starts a line and gives a value. -/
theorem versionFrom?_eq_some_iff (lineStart : Bool) (s : Text) :
    versionFrom? lineStart s = some v ↔
      ∃ p, StartsLine lineStart s p ∧ versionHere? (s.drop p) = some v ∧
        ∀ q < p, StartsLine lineStart s q → versionHere? (s.drop q) = none := by
  induction s generalizing lineStart with
  | nil => simp [versionFrom?, versionHere?_nil]
  | cons c rest ih =>
    rw [versionFrom?]
    cases hHere : if lineStart then versionHere? (c :: rest) else none with
    | some value =>
      obtain ⟨hStart, hValue⟩ := Option.ite_none_right_eq_some.mp hHere
      constructor
      · intro h
        exact ⟨0, hStart, hValue.trans h, fun q hq => absurd hq (Nat.not_lt_zero q)⟩
      · rintro ⟨p, -, hFound, hBefore⟩
        cases p with
        | zero => exact hValue.symm.trans hFound
        | succ p =>
          have hNone := hBefore 0 (Nat.succ_pos p) hStart
          rw [List.drop_zero, hValue] at hNone
          cases hNone
    | none =>
      have hNone : lineStart = true → versionHere? (c :: rest) = none := by
        intro hStart
        rwa [if_pos hStart] at hHere
      rw [ih]
      constructor
      · rintro ⟨p, hStart, hFound, hBefore⟩
        refine ⟨p + 1, startsLine_cons.mpr hStart, hFound, fun q hq hLine => ?_⟩
        cases q with
        | zero => exact hNone hLine
        | succ q => exact hBefore q (Nat.lt_of_succ_lt_succ hq) (startsLine_cons.mp hLine)
      · rintro ⟨p, hStart, hFound, hBefore⟩
        cases p with
        | zero =>
          rw [List.drop_zero, hNone hStart] at hFound
          cases hFound
        | succ p =>
          refine ⟨p, startsLine_cons.mp hStart, hFound, fun q hq hLine => ?_⟩
          exact hBefore (q + 1) (Nat.succ_lt_succ hq) (startsLine_cons.mpr hLine)

/-- The search finds the value of the first assignment. -/
theorem version?_eq_some_iff : version? s = some v ↔ ∃ p, LeastHit s p v := by
  rw [version?, versionFrom?_eq_some_iff]
  refine exists_congr fun p => ?_
  rw [LeastHit, hit_iff, and_assoc]
  exact and_congr_right fun _ => and_congr_right fun _ => forall₂_congr fun q _ =>
    forall_not_hit_iff.symm

/-- The scan stops at the leftmost hit. -/
theorem LeastHit.version?_eq (h : LeastHit s p v) : version? s = some v :=
  version?_eq_some_iff.mpr ⟨p, h⟩

theorem version?_eq_none (h : ∀ p v, ¬ Hit s p v) : version? s = none := by
  rw [Option.eq_none_iff_forall_ne_some]
  intro v hv
  obtain ⟨p, hHit, -⟩ := version?_eq_some_iff.mp hv
  exact h p v hHit

/-! ## The text behind an assignment -/

/-- An assignment has the two quotes around its value and no others. -/
theorem Assignment.countP_eq (h : Assignment m v) : m.countP isQuote = 2 := by
  obtain ⟨lead, q', rfl, hLead, hq'⟩ := h.exists_last
  rw [List.countP_append, hLead, List.countP_singleton, if_pos hq']

/-- An assignment that starts in front of another one and ends behind it would hold the quotes of
both. -/
theorem Assignment.isPrefix_of_isPrefix_append {m' front rest : Text} (hm : Assignment m v)
    (hm' : Assignment m' w) (h : m' <+: front ++ m ++ rest) : m' <+: front ++ m := by
  rcases List.prefix_or_prefix_of_prefix h (List.prefix_append (front ++ m) rest) with hIn | hOut
  · exact hIn
  · obtain ⟨lead, q', rfl, hLead, -⟩ := hm'.exists_last
    rcases List.prefix_concat_iff.mp hOut with heq | hInside
    · exact ⟨[], (List.append_nil _).trans heq.symm⟩
    · have hCount := hInside.sublist.countP_le (p := isQuote)
      rw [List.countP_append, hm.countP_eq, hLead] at hCount
      omega

theorem startsLine_append {q : Nat} (hq : q ≤ front.length) (u : Text) :
    (q = 0 ∨ (front ++ u)[q - 1]? = some '\n') ↔ (q = 0 ∨ front[q - 1]? = some '\n') := by
  rcases Nat.eq_zero_or_pos q with rfl | hPos
  · simp
  · rw [List.getElem?_append_left (by omega)]

/-- In front of an assignment and at its start, hits do not depend on the text behind it. -/
theorem Hit.of_append {rest' : Text} {q : Nat} (hm : Assignment m v) (hq : q ≤ front.length)
    (h : Hit (front ++ m ++ rest') q w) : Hit (front ++ m ++ rest) q w := by
  obtain ⟨hStart, m', hPrefix, hm'⟩ := h
  rw [List.append_assoc, startsLine_append hq] at hStart
  rw [List.append_assoc, List.drop_append_of_le_length hq, ← List.append_assoc] at hPrefix
  have hInside := hm.isPrefix_of_isPrefix_append hm' hPrefix
  refine ⟨?_, m', ?_, hm'⟩
  · rwa [List.append_assoc, startsLine_append hq]
  · rw [List.append_assoc, List.drop_append_of_le_length hq, ← List.append_assoc]
    exact hInside.trans (List.prefix_append _ _)

theorem LeastHit.append (hm : Assignment m v) (h : LeastHit (front ++ m ++ rest) front.length v)
    (rest' : Text) : LeastHit (front ++ m ++ rest') front.length v :=
  ⟨h.1.of_append hm (Nat.le_refl _), fun q hq w hHit => h.2 q hq w (hHit.of_append hm hq.le)⟩

end Manifest

/-! ## The version -/

open Manifest

theorem manifestVersion_eq {content : Octets} {raw : Text}
    (h : Octets.decodeStrict? content = some raw) :
    manifestVersion (some content) =
      some ((version? (foldNewlines raw)).getD "unknown".toList) := by
  rw [manifestVersion, h]
  rfl

/-- **The version in a manifest.** In the text of a manifest, with its line ends folded, the value
of the first assignment at the start of a line is the version; without one it is `unknown`. No
position has two values, so there is exactly one version, and it is neither empty nor holds a quote.
The text behind the closing quote of the first assignment may change without changing the version.
-/
theorem manifestVersion_leftmost (content : Octets) {raw : Text}
    (h : Octets.decodeStrict? content = some raw) :
    (∀ p v, LeastHit (foldNewlines raw) p v → manifestVersion (some content) = some v) ∧
    ((∀ p v, ¬ Hit (foldNewlines raw) p v) →
      manifestVersion (some content) = some "unknown".toList) ∧
    (∀ p v w, Hit (foldNewlines raw) p v → Hit (foldNewlines raw) p w → v = w) ∧
    (∃ v, manifestVersion (some content) = some v ∧ v ≠ [] ∧ ∀ c ∈ v, isQuote c = false) ∧
    ∀ front m v rest, foldNewlines raw = front ++ m ++ rest → Assignment m v →
      LeastHit (foldNewlines raw) front.length v →
      ∀ content' raw' rest', Octets.decodeStrict? content' = some raw' →
        foldNewlines raw' = front ++ m ++ rest' →
        manifestVersion (some content') = manifestVersion (some content) := by
  refine ⟨fun p v hLeast => ?_, fun hNone => ?_, fun p v w => Hit.unique, ?_,
    fun front m v rest hText hm hLeast content' raw' rest' h' hText' => ?_⟩
  · rw [manifestVersion_eq h, hLeast.version?_eq, Option.getD_some]
  · rw [manifestVersion_eq h, version?_eq_none hNone, Option.getD_none]
  · refine ⟨_, manifestVersion_eq h, ?_⟩
    cases hFound : version? (foldNewlines raw) with
    | none => exact ⟨by decide, isQuote_eq_false_of_all (by decide)⟩
    | some v =>
      obtain ⟨p, ⟨-, m, -, hm⟩, -⟩ := version?_eq_some_iff.mp hFound
      exact ⟨hm.ne_nil, hm.isQuote_eq_false⟩
  · rw [hText] at hLeast
    rw [manifestVersion_eq h, manifestVersion_eq h', hText, hText', hLeast.version?_eq,
      (hLeast.append hm rest').version?_eq]

/-- The first line has the word in the wrong place. The assignment starts with the empty line behind
it, runs over three lines more and has quotes of both kinds. Behind it a second one may stand. -/
theorem manifestVersion_severalLines :
    let front : Text := "aversion = '0'\n".toList
    let m : Text := "\n version\n= \x221.\n2'".toList
    let content := Octets.encode "aversion = '0'\r\n\r\n version\r= \x221.\r\n2'x".toList
    let content' := Octets.encode (front ++ m ++ "\nversion = '3'".toList)
    LeastHit (front ++ m ++ ['x']) front.length "1.\n2".toList ∧
      manifestVersion (some content) = some "1.\n2".toList ∧
      manifestVersion (some content') = manifestVersion (some content) := by
  intro front m content content'
  have hFeed : Text.isBlank '\n' = true := by decide
  have hSpace : Text.isBlank ' ' = true := by decide
  have hm : Assignment m "1.\n2".toList :=
    ⟨['\n', ' '], ['\n'], [' '], '\x22', '\x27', rfl, by simp [hFeed, hSpace], by simp [hFeed],
      by simp [hSpace], rfl, rfl, by decide, isQuote_eq_false_of_all (by decide)⟩
  have hLeast : LeastHit (front ++ m ++ ['x']) front.length "1.\n2".toList := by
    refine ⟨⟨Or.inr (by decide), m, ⟨['x'], by decide +kernel⟩, hm⟩, fun q hq => ?_⟩
    rw [forall_not_hit_iff]
    have hBefore : ∀ q < 15, StartsLine true (front ++ m ++ ['x']) q →
        versionHere? ((front ++ m ++ ['x']).drop q) = none := by decide +kernel
    exact hBefore q hq
  have hDecoded : Octets.decodeStrict? content =
      some "aversion = '0'\r\n\r\n version\r= \x221.\r\n2'x".toList := by decide +kernel
  have hDecoded' : Octets.decodeStrict? content' =
      some (front ++ m ++ "\nversion = '3'".toList) := by decide +kernel
  have hFolded : foldNewlines "aversion = '0'\r\n\r\n version\r= \x221.\r\n2'x".toList =
      front ++ m ++ ['x'] := by decide +kernel
  obtain ⟨hValue, -, -, -, hBehind⟩ := manifestVersion_leftmost content hDecoded
  rw [hFolded] at hValue hBehind
  have hFolded' : foldNewlines (front ++ m ++ "\nversion = '3'".toList) =
      front ++ m ++ "\nversion = '3'".toList := by decide +kernel
  exact ⟨hLeast, hValue _ _ hLeast, hBehind front m _ ['x'] rfl hm hLeast content' _ _ hDecoded'
    hFolded'⟩

end PluginMerge
