import Mathlib.Data.List.Infix
import PluginMerge.Bundle.Render
import PluginMerge.Proofs.Declaration
import PluginMerge.Proofs.Reading

/-!
# The lines of the merged file

The merged file is made of parts, some of which hold several lines or none. Here it is cut into
lines, and each kind of line is judged as a merge would judge it outside all braces.

* `Bundle.render_eq_unlines`: the merged file by lines, the header first.
* `Line.Idle`: a line that contributes nothing outside all braces. `Line.idle_border` and
  `Line.idle_comment` are the lines of the header.
* `Line.startsRegion_declarationOf`: a mark in a declaration is one in the name.
-/

namespace PluginMerge

/-! ## Cutting the merged file into lines -/

/-- The lines of the text that joins some lines: without any, it is an empty line. -/
def shownLines (xs : List Text) : List Text := if xs = [] then [[]] else xs

theorem mem_shownLines {x : Text} {xs : List Text} (h : x ∈ shownLines xs) : x = [] ∨ x ∈ xs := by
  unfold shownLines at h
  split at h
  · exact Or.inl (List.mem_singleton.mp h)
  · exact Or.inr h

@[simp] theorem shownLines_shownLines (xs : List Text) :
    shownLines (shownLines xs) = shownLines xs := by
  by_cases h : xs = [] <;> simp [shownLines, h]

/-- Texts joined by line feeds and ended by one are lines, one of them for each text, and one empty
line if there is no text. -/
theorem joined_concat (xs : List Text) :
    Text.joined ['\n'] xs ++ ['\n'] = unlines (shownLines xs) := by
  induction xs with
  | nil => rfl
  | cons x rest ih =>
    cases rest with
    | nil => simp [Text.joined, shownLines]
    | cons y rest =>
      -- Behind the first of two lines the joined text has the line feed that `unlines` puts there.
      rw [Text.joined] at ih
      rw [Text.joined, List.intercalate_cons_cons, List.append_assoc, ih]
      simp [shownLines]

namespace Bundle

/-- The parts of the merged file up to the second border. -/
def headerParts (b : Bundle) (toolVersion buildDate : Text) : List Text :=
  [border (b.header toolVersion buildDate)] ++
    (b.header toolVersion buildDate).map ("// ".toList ++ ·) ++
    [border (b.header toolVersion buildDate)]

def blockLines (bucket : Text × List Text) : List Text :=
  [[], Line.declarationOf bucket.1] ++ shownLines bucket.2 ++ ["\x7d".toList]

/-- The lines of the merged file behind the second border. -/
def bodyLines (b : Bundle) : List Text :=
  [[], []] ++ shownLines b.imports ++ b.buckets.flatMap blockLines

theorem unlines_block (bucket : Text × List Text) :
    unlines (block bucket) = unlines (blockLines bucket) := by
  have hDeclaration : "\nnamespace ".toList ++ bucket.1 ++ " \x7b".toList =
      '\n' :: Line.declarationOf bucket.1 := rfl
  have hBody : Text.joined ['\n'] bucket.2 ++ '\n' :: unlines ["\x7d".toList] =
      unlines (shownLines bucket.2) ++ unlines ["\x7d".toList] := by
    rw [← joined_concat, List.append_assoc, List.singleton_append]
  rw [block, blockLines, hDeclaration, unlines_cons, unlines_cons, hBody]
  simp only [unlines_append, unlines_cons, unlines_nil, List.cons_append, List.nil_append]

theorem unlines_blocks (buckets : List (Text × List Text)) :
    unlines (buckets.flatMap block) = unlines (buckets.flatMap blockLines) := by
  induction buckets with
  | nil => rfl
  | cons bucket rest ih =>
    rw [List.flatMap_cons, List.flatMap_cons, unlines_append, unlines_append, unlines_block, ih]

/-- The merged file is a sequence of lines: those of the header, then those of imports and blocks.
-/
theorem render_eq_unlines (b : Bundle) (toolVersion buildDate : Text) :
    b.render toolVersion buildDate =
      unlines (b.headerParts toolVersion buildDate ++ b.bodyLines) := by
  have hImports := joined_concat b.imports
  have hParts : b.parts toolVersion buildDate = b.headerParts toolVersion buildDate ++
      (["\n".toList, Text.joined ['\n'] b.imports] ++ b.buckets.flatMap block) := by
    simp [parts, headerParts]
  have hRender : b.render toolVersion buildDate = unlines (b.parts toolVersion buildDate) := rfl
  rw [hRender, hParts]
  simp only [bodyLines, unlines_append, unlines_blocks, ← hImports]
  simp

end Bundle

/-! ## Lines that contribute nothing -/

namespace Line

/-- Outside all braces the line contributes nothing and moves nothing. -/
structure Idle (l : Text) : Prop where
  nothing : topLevel l = .nothing
  braces : braceDelta l = 0
  shown : startsRegion l = false

theorem idle_nil : Idle [] := ⟨by decide, by decide, by decide⟩

/-- A comment is neither a declaration nor an import. -/
theorem topLevel_slash {l : Text} (h : '\n' ∉ l) : topLevel ('/' :: l) = .nothing := by
  have hWhole : Text.withoutFinalNewline ('/' :: l) = '/' :: l := by
    refine if_neg fun hLast => ?_
    have hMem := List.mem_of_getLast? hLast
    simp [h] at hMem
  have hNamespace : isNamespace ('/' :: l) = false := rfl
  have hImport : isImport ('/' :: l) = false := by
    rw [isImport, hWhole]
    rfl
  rw [topLevel, hNamespace, hImport]
  rfl

theorem braceDelta_append (l m : Text) : braceDelta (l ++ m) = braceDelta l + braceDelta m := by
  simp only [braceDelta, List.count_append]
  push_cast
  omega

/-! ### Marks and spaces -/

theorem isPrefix_of_isPrefix_append_cons {m xs ys : Text} {c : Char} (hc : c ∉ m)
    (h : m <+: xs ++ c :: ys) : m <+: xs := by
  rcases List.prefix_or_prefix_of_prefix h (List.prefix_append xs (c :: ys)) with hm | ⟨t, rfl⟩
  · exact hm
  · have ht : t <+: c :: ys := (List.prefix_append_right_inj xs).mp h
    cases t with
    | nil => simp
    | cons d t =>
      have hd : d = c := (List.cons_prefix_cons.mp ht).1
      exact absurd (by simp [hd]) hc

/-- A text without a character does not reach across it. -/
theorem isInfix_of_isInfix_append_cons {m xs ys : Text} {c : Char} (hc : c ∉ m)
    (h : m <:+: xs ++ c :: ys) : m <:+: xs ∨ m <:+: ys := by
  induction xs with
  | nil =>
    rcases List.infix_cons_iff.mp h with hm | hm
    · have hEmpty : m <+: [] := isPrefix_of_isPrefix_append_cons hc hm
      exact Or.inl hEmpty.isInfix
    · exact Or.inr hm
  | cons d xs ih =>
    rcases List.infix_cons_iff.mp h with hm | hm
    · have hFront : m <+: d :: xs := isPrefix_of_isPrefix_append_cons hc hm
      exact Or.inl hFront.isInfix
    · rcases ih hm with hm | hm
      · exact Or.inl (hm.trans (List.suffix_cons d xs).isInfix)
      · exact Or.inr hm

/-- The mark that opens a region holds no space, so it does not reach across one. -/
theorem startsRegion_append_space {l m : Text} (hl : startsRegion l = false)
    (hm : startsRegion m = false) : startsRegion (l ++ ' ' :: m) = false := by
  rw [← Bool.not_eq_true, startsRegion, Text.includes_iff] at hl hm ⊢
  intro h
  rcases isInfix_of_isInfix_append_cons (by decide) h with h | h
  · exact hl h
  · exact hm h

/-- The frame around a name cannot complete a mark that the name does not hold. -/
theorem startsRegion_declarationOf {n : Text} (hn : startsRegion n = false) :
    startsRegion (declarationOf n) = false := by
  have hSplit : declarationOf n = "namespace".toList ++ ' ' :: (n ++ ' ' :: ['{']) := by
    rw [declarationOf, List.append_assoc]
    rfl
  rw [hSplit]
  exact startsRegion_append_space (by decide) (startsRegion_append_space hn (by decide))

theorem braceDelta_declarationOf (n : Text) : braceDelta (declarationOf n) = braceDelta n + 1 := by
  have hKeyword : braceDelta namespaceKeyword = 0 := by decide
  have hBrace : braceDelta " \x7b".toList = 1 := by decide
  rw [declarationOf, braceDelta_append, braceDelta_append, hKeyword, hBrace, Int.zero_add]

/-! ### The header -/

theorem idle_border (header : List Text) : Idle (border header) where
  nothing := by
    have hWidth : border header = '/' :: List.replicate (longest header + 4) '/' := rfl
    rw [hWidth]
    exact topLevel_slash fun hMem => absurd (List.eq_of_mem_replicate hMem) (by decide)
  braces := by
    simp [braceDelta, border, List.count_replicate]
  shown := by
    rw [← Bool.not_eq_true, startsRegion, Text.includes_iff]
    intro hMark
    have hMem : 'O' ∈ border header := hMark.subset (by decide)
    exact absurd (List.eq_of_mem_replicate hMem) (by decide)

/-- A comment of the header has no effect when it is merged, as long as it is one line and neither
its braces nor a mark in it count. -/
theorem idle_comment {h : Text} (hFeed : '\n' ∉ h) (hBraces : braceDelta h = 0)
    (hShown : startsRegion h = false) : Idle ("// ".toList ++ h) where
  nothing := by
    refine topLevel_slash fun hMem => ?_
    rcases List.mem_cons.mp hMem with heq | hMem
    · exact absurd heq (by decide)
    · rcases List.mem_cons.mp hMem with heq | hMem
      · exact absurd heq (by decide)
      · exact hFeed hMem
  braces := by
    have hMark : braceDelta "// ".toList = 0 := by decide
    rw [braceDelta_append, hMark, hBraces, Int.zero_add]
  shown := startsRegion_append_space (l := "//".toList) (by decide) hShown

end Line

end PluginMerge
