import Mathlib.Data.List.Infix
import PluginMerge.Proofs.Output
import PluginMerge.Proofs.Partway

/-!
# Balanced sources give balanced buckets

A merge takes blocks apart: the lines that open and close them go nowhere, directives are replaced,
and the insides of many blocks from many files are strung together in one bucket. The braces of a
bucket are balanced all the same if those of the files are, and if blocks are opened and closed one
brace at a time.

The invariant ties the bucket of the current namespace to the cursor: behind every line it stands
one level below the depth, for the brace that opened the block, while all other buckets stand at
level zero. Whoever changes the namespace does so at depth zero, where all buckets are level.

* `LeadsTo`: lines that lead up to a level and never fall below zero.
* `TidyBraces`: how the braces of a file have to be.
* `leadsTo_ofLines_succ`: one line keeps the invariant, and `leadsTo_ofLines` is a whole file.
* `mergeFiles_balanced`: whole merges.
-/

namespace PluginMerge

/-! ## Levels -/

/-- Opening minus closing braces of some lines. -/
def braceSum (xs : List Text) : Int := (xs.map Line.braceDelta).sum

@[simp] theorem braceSum_append (xs ys : List Text) :
    braceSum (xs ++ ys) = braceSum xs + braceSum ys := by
  simp [braceSum]

@[simp] theorem braceSum_singleton (x : Text) : braceSum [x] = Line.braceDelta x := by
  simp [braceSum]

/-- The braces of the lines lead from level zero to level `d`, and never below zero. -/
structure LeadsTo (xs : List Text) (d : Int) : Prop where
  level : braceSum xs = d
  nonneg : ∀ p, p <+: xs → 0 ≤ braceSum p

theorem leadsTo_nil : LeadsTo [] 0 := by
  refine ⟨rfl, fun p hp => ?_⟩
  rw [List.prefix_nil.mp hp]
  exact Int.le_refl 0

theorem LeadsTo.concat {xs : List Text} {x : Text} {d : Int} (h : LeadsTo xs d)
    (hx : 0 ≤ d + Line.braceDelta x) : LeadsTo (xs ++ [x]) (d + Line.braceDelta x) := by
  have hLevel : braceSum (xs ++ [x]) = d + Line.braceDelta x := by
    rw [braceSum_append, h.level, braceSum_singleton]
  refine ⟨hLevel, fun p hp => ?_⟩
  rcases List.prefix_concat_iff.mp hp with rfl | hp
  · rwa [hLevel]
  · exact h.nonneg p hp

theorem LeadsTo.append {xs ys : List Text} {d : Int} (hx : LeadsTo xs 0) (hy : LeadsTo ys d) :
    LeadsTo (xs ++ ys) d := by
  refine ⟨by rw [braceSum_append, hx.level, hy.level, Int.zero_add], fun p hp => ?_⟩
  rcases List.prefix_or_prefix_of_prefix hp (List.prefix_append xs ys) with hp' | ⟨q, rfl⟩
  · exact hx.nonneg p hp'
  · have hq : q <+: ys := (List.prefix_append_right_inj xs).mp hp
    rw [braceSum_append, hx.level, Int.zero_add]
    exact hy.nonneg q hq

/-! ## Braces of an output -/

/-- There is no brace in the text. -/
def NoBraces (s : Text) : Prop := '{' ∉ s ∧ '}' ∉ s

instance (s : Text) : Decidable (NoBraces s) := inferInstanceAs (Decidable (_ ∧ _))

theorem NoBraces.braceDelta_eq {s : Text} (h : NoBraces s) : Line.braceDelta s = 0 := by
  rw [Line.braceDelta, List.count_eq_zero.mpr h.1, List.count_eq_zero.mpr h.2]
  rfl

variable {name version : Text}

/-- A line gives nothing and has no braces, or gives one line with the same braces. -/
theorem Line.output_cases (hName : NoBraces name) (hVersion : NoBraces version) {l : Text}
    (hDirective : Line.isDirective l = true → NoBraces l) :
    (Line.output name version l = [] ∧ Line.braceDelta l = 0) ∨
      ∃ x, Line.output name version l = [x] ∧ Line.braceDelta x = Line.braceDelta l := by
  cases hKind : Line.isDirective l with
  | false => exact Or.inr ⟨l, by simp [Line.output, hKind], rfl⟩
  | true =>
    have hl := hDirective hKind
    cases hParse : Directive.parse l with
    | error reason => exact Or.inl ⟨by simp [Line.output, hKind, hParse], hl.braceDelta_eq⟩
    | ok info =>
      have hOutput : ∃ x, Line.output name version l = [x] := ⟨_, by
        rw [Line.output, if_pos hKind, hParse]⟩
      obtain ⟨x, hx⟩ := hOutput
      have hMem : x ∈ Line.output name version l := by simp [hx]
      have hFrame : NoBraces Directive.attributeFrame := by decide
      have hNone : NoBraces x :=
        ⟨Line.not_mem_output hl.1 hName.1 hVersion.1 hFrame.1 hMem,
          Line.not_mem_output hl.2 hName.2 hVersion.2 hFrame.2 hMem⟩
      exact Or.inr ⟨x, hx, by rw [hNone.braceDelta_eq, hl.braceDelta_eq]⟩

/-! ## One file -/

/-- The depth is never negative and ends at zero, and blocks outside all others are opened and
closed by a single brace. -/
structure TidyBraces (ls : List Text) : Prop where
  nonneg : ∀ i, i ≤ ls.length → 0 ≤ depthBefore ls i
  ends : depthBefore ls ls.length = 0
  opens : ∀ i, i < ls.length → depthBefore ls i = 0 → depthBefore ls (i + 1) ≠ 0 →
    depthBefore ls (i + 1) = 1
  closes : ∀ i, i < ls.length → depthBefore ls i ≠ 0 → depthBefore ls (i + 1) = 0 →
    depthBefore ls i = 1

/-- The level of a bucket in front of line `i`. -/
def levelBefore (debug : Bool) (ls : List Text) (i : Nat) (target : Text) : Int :=
  if depthBefore ls i ≠ 0 ∧ (namesBefore debug ls i).getLast? = some target then
    depthBefore ls i - 1
  else 0

section File

variable {debug : Bool} {ls : List Text} (hBraces : TidyBraces ls) (hName : NoBraces name)
  (hVersion : NoBraces version) (hDirectives : ∀ l ∈ ls, Line.isDirective l = true → NoBraces l)
  (hShown : ∀ i, ¬ Filtered debug ls i)

theorem levelBefore_of_top {i : Nat} (h : depthBefore ls i = 0) (target : Text) :
    levelBefore debug ls i target = 0 := by
  rw [levelBefore, if_neg fun hBoth => hBoth.1 h]

theorem levelBefore_of_one {i : Nat} (h : depthBefore ls i = 1) (target : Text) :
    levelBefore debug ls i target = 0 := by
  simp [levelBefore, h]

include hBraces in
/-- Where no block goes on, all buckets are level. -/
theorem levelBefore_of_not_inBody {i : Nat} (hi : i < ls.length)
    (hBody : ¬ (depthBefore ls i ≠ 0 ∧ depthBefore ls (i + 1) ≠ 0)) (target : Text) :
    levelBefore debug ls i target = 0 ∧ levelBefore debug ls (i + 1) target = 0 := by
  by_cases hTop : depthBefore ls i = 0
  · refine ⟨levelBefore_of_top hTop target, ?_⟩
    by_cases hNext : depthBefore ls (i + 1) = 0
    · exact levelBefore_of_top hNext target
    · exact levelBefore_of_one (hBraces.opens i hi hTop hNext) target
  · have hNext : depthBefore ls (i + 1) = 0 := by
      by_contra hNext
      exact hBody ⟨hTop, hNext⟩
    exact ⟨levelBefore_of_one (hBraces.closes i hi hTop hNext) target,
      levelBefore_of_top hNext target⟩

include hBraces in
/-- A body line moves the level of its own bucket by its braces and leaves those of the others. The
level does not fall below zero, since the line is not the one that closes the block. -/
theorem levelBefore_succ_of_inBody {i : Nat} {l : Text} (hl : ls[i]? = some l)
    (hBody : InBody debug ls i) (target : Text) :
    levelBefore debug ls (i + 1) target =
        levelBefore debug ls i target +
          (if namespaceAt debug ls i = some target then Line.braceDelta l else 0) ∧
      0 ≤ levelBefore debug ls (i + 1) target := by
  have hNames : (namesBefore debug ls (i + 1)).getLast? = namespaceAt debug ls i := rfl
  have hSame := namespaceAt_of_inBody hBody
  have hDepth := depthBefore_succ hl
  have hNonneg := hBraces.nonneg (i + 1) (List.getElem?_eq_some_iff.mp hl).1
  have hSome := hBody.2.2
  unfold levelBefore
  rw [hNames, ← hSame]
  -- The bucket of the current namespace moves with the depth; the others stay at zero.
  by_cases hTarget : namespaceAt debug ls i = some target
  · simp only [hTarget, hBody.2.1, hBody.2.2, ne_eq, not_false_eq_true, and_self, if_true]
    rw [depthAfter] at hDepth
    omega
  · simp [hTarget]

include hBraces hName hVersion hDirectives hShown in
/-- One line keeps every bucket at its level. -/
theorem leadsTo_ofLines_succ {i : Nat} (hi : i < ls.length) (target : Text)
    (h : LeadsTo ((Material.ofLines name version debug ls i).linesFor (some target))
      (levelBefore debug ls i target)) :
    LeadsTo ((Material.ofLines name version debug ls (i + 1)).linesFor (some target))
      (levelBefore debug ls (i + 1) target) := by
  have hl : ls[i]? = some ls[i] := List.getElem?_eq_getElem hi
  rw [Material.ofLines_succ, Material.linesFor_append, Material.linesFor_ofPosition]
  by_cases hBody : InBody debug ls i
  · obtain ⟨hLevel, hNonneg⟩ := levelBefore_succ_of_inBody hBraces hl hBody target
    have hCases := Line.output_cases hName hVersion (hDirectives ls[i] (List.getElem_mem hi))
    rw [outputAt_of_inBody name version hl hBody]
    by_cases hTarget : namespaceAt debug ls i = some target
    · rw [if_pos hTarget] at hLevel ⊢
      rcases hCases with ⟨hNone, hZero⟩ | ⟨x, hSome, hSame⟩
      · rw [hNone, List.append_nil, hLevel, hZero, Int.add_zero]
        exact h
      · rw [hLevel, ← hSame] at hNonneg ⊢
        rw [hSome]
        exact h.concat hNonneg
    · rw [if_neg hTarget] at hLevel ⊢
      rw [List.append_nil, hLevel, Int.add_zero]
      exact h
  · -- Nothing is put out here, and no level moves: blocks are opened and closed at depth one, which
    -- is level zero.
    have hDepths : ¬ (depthBefore ls i ≠ 0 ∧ depthBefore ls (i + 1) ≠ 0) :=
      fun hDepths => hBody ⟨hShown i, hDepths⟩
    obtain ⟨hBefore, hAfter⟩ := levelBefore_of_not_inBody hBraces hi hDepths target
    rw [outputAt_of_not_inBody name version hBody, ite_self, List.append_nil, hAfter, ← hBefore]
    exact h

include hBraces hName hVersion hDirectives hShown in
/-- The step for one line, carried along a file. -/
theorem leadsTo_ofLines {i : Nat} (hi : i ≤ ls.length) (target : Text) :
    LeadsTo ((Material.ofLines name version debug ls i).linesFor (some target))
      (levelBefore debug ls i target) := by
  induction i with
  | zero => exact levelBefore_of_top (depthBefore_zero ls) target ▸ leadsTo_nil
  | succ i ih =>
    exact leadsTo_ofLines_succ hBraces hName hVersion hDirectives hShown hi target
      (ih (Nat.le_of_succ_le hi))

end File

/-! ## Whole merges -/

/-- A file ends at depth zero, so all its contributions to a bucket lead back to level zero, and
those of several files can be strung together. -/
theorem leadsTo_ofFiles {debug : Bool} (hName : NoBraces name) (hVersion : NoBraces version)
    {files : List SourceFile} (hBraces : ∀ f ∈ files, TidyBraces f.lines)
    (hDirectives : ∀ f ∈ files, ∀ l ∈ f.lines, Line.isDirective l = true → NoBraces l)
    (hShown : ∀ f ∈ files, ∀ i, ¬ Filtered debug f.lines i) (target : Text) :
    LeadsTo ((Material.ofFiles name version debug files).linesFor (some target)) 0 := by
  induction files with
  | nil => exact leadsTo_nil
  | cons f rest ih =>
    have hf : f ∈ f :: rest := List.mem_cons_self
    have hRest := ih (fun g hg => hBraces g (List.mem_cons_of_mem f hg))
      (fun g hg => hDirectives g (List.mem_cons_of_mem f hg))
      (fun g hg => hShown g (List.mem_cons_of_mem f hg))
    have hFile := leadsTo_ofLines (hBraces f hf) hName hVersion (hDirectives f hf) (hShown f hf)
      (Nat.le_refl f.lines.length) target
    rw [levelBefore_of_top (hBraces f hf).ends] at hFile
    rw [Material.ofFiles_cons, Material.linesFor_append]
    exact hFile.append hRest

theorem not_filtered_of_shown {files : List SourceFile}
    (h : DebugOn files ∨ ∀ f ∈ files, ∀ l ∈ f.lines, Line.startsRegion l = false) :
    ∀ f ∈ files, ∀ i, ¬ Filtered (decide (DebugOn files)) f.lines i := by
  rintro f hf i ⟨hOff, j, -, hStart, -⟩
  rcases h with hOn | hNone
  · simp [hOn] at hOff
  · rw [startsAt, Option.any_eq_true] at hStart
    obtain ⟨l, hl, hStart⟩ := hStart
    rw [hNone f hf l (List.mem_of_getElem? hl)] at hStart
    cases hStart

/-- All the lines that `n` lines from line `a` on give go to one bucket, or they are all dropped. -/
def Bundle.SharedFate (name version : Text) (debug : Bool) (front : List SourceFile)
    (f : SourceFile) (a n : Nat) : Prop :=
  ∃ target : Option Text,
    (∀ m, (partway name version debug front f (a + n)).linesOf m =
      (partway name version debug front f a).linesOf m ++
        if target = some m then outputFrom name version debug f.lines a n else []) ∧
    (partway name version debug front f (a + n)).droppedLines =
      (partway name version debug front f a).droppedLines +
        if target = none then (outputFrom name version debug f.lines a n).length else 0

/-- **Balanced sources give balanced buckets.** If the braces of all files are tidy, directives have
none, and no line is left out, then the braces of every bucket are balanced; and the lines of a
stretch of a file where the depth is not zero share one bucket, or are all dropped. -/
theorem mergeFiles_balanced (hName : NoBraces name) (hVersion : NoBraces version)
    {files : List SourceFile} (hBraces : ∀ f ∈ files, TidyBraces f.lines)
    (hDirectives : ∀ f ∈ files, ∀ l ∈ f.lines, Line.isDirective l = true → NoBraces l)
    (hShown : DebugOn files ∨ ∀ f ∈ files, ∀ l ∈ f.lines, Line.startsRegion l = false) :
    (∀ bucket ∈ (mergeFiles name version files).value.buckets, LeadsTo bucket.2 0) ∧
      ∀ front f rest, files = front ++ f :: rest → ∀ a n, a + n ≤ f.lines.length →
        (∀ k, k < n → depthBefore f.lines (a + k) ≠ 0) →
        Bundle.SharedFate name version (decide (DebugOn files)) front f a n := by
  constructor
  · intro bucket hBucket
    rw [mergeFiles, Logged.value_bind, value_debugFlag, Bundle.value_mergeEach] at hBucket
    obtain ⟨target, -, rfl⟩ := List.mem_map.mp hBucket
    exact leadsTo_ofFiles hName hVersion hBraces hDirectives (not_filtered_of_shown hShown) target
  · intro front f rest _ a n hEnd hDepth
    refine ⟨(namesBefore (decide (DebugOn files)) f.lines a).getLast?, fun m => ?_, ?_⟩
    · exact Bundle.linesOf_partway_stretch name version _ front hEnd hDepth m
    · exact Bundle.droppedLines_partway_stretch name version _ front hEnd hDepth

/-- A block without a namespace, and a namespace block with a block, a directive and a debug region
inside. -/
def nestedBlocks : SourceFile where
  path := "Main.cs".toList
  lines := ["class Loose \x7b".toList, "int b;".toList, "\x7d".toList, "namespace N".toList,
    "\x7b".toList, "class A \x7b".toList, "  //OX.INSERT(PluginInfo me site/1234 git)".toList,
    "//OX.DEBUGSTART \x7b".toList, "\x7d //OX.DEBUGEND".toList, "\x7d".toList, "\x7d".toList]

/-- A block of the same namespace, and the line that switches debugging on. -/
def switchedOn : SourceFile where
  path := "Debug.cs".toList
  lines := ["//OX.DEBUGENABLE".toList, "namespace N \x7b".toList, "void F() \x7b\x7b".toList,
    "\x7d\x7d".toList, "\x7d".toList]

theorem mergeFiles_nestedBlocks :
    let files := [nestedBlocks, switchedOn]
    NoBraces "P".toList ∧ NoBraces "1".toList ∧ (∀ f ∈ files, TidyBraces f.lines) ∧
      (∀ f ∈ files, ∀ l ∈ f.lines, Line.isDirective l = true → NoBraces l) ∧ DebugOn files ∧
      (∀ bucket ∈ (mergeFiles "P".toList "1".toList files).value.buckets, LeadsTo bucket.2 0) ∧
      Bundle.SharedFate "P".toList "1".toList (decide (DebugOn files)) [] nestedBlocks 5 6 := by
  intro files
  have hName : NoBraces "P".toList := by decide
  have hVersion : NoBraces "1".toList := by decide
  have hBraces : ∀ f ∈ files, TidyBraces f.lines := by
    intro f hf
    rcases List.mem_pair.mp hf with rfl | rfl
    · exact ⟨by decide +kernel, by decide +kernel, by decide +kernel, by decide +kernel⟩
    · exact ⟨by decide +kernel, by decide +kernel, by decide +kernel, by decide +kernel⟩
  have hDirectives : ∀ f ∈ files, ∀ l ∈ f.lines, Line.isDirective l = true → NoBraces l := by
    decide +kernel
  have hOn : DebugOn files := by decide +kernel
  obtain ⟨hBuckets, hFate⟩ :=
    mergeFiles_balanced hName hVersion hBraces hDirectives (Or.inl hOn)
  exact ⟨hName, hVersion, hBraces, hDirectives, hOn, hBuckets,
    hFate [] nestedBlocks [switchedOn] rfl 5 6 (by decide) (by decide +kernel)⟩

end PluginMerge
