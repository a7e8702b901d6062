import PluginMerge.Proofs.ClosedForm

/-!
# Debug regions cut out beforehand

Without debugging, a merge leaves the lines of debug regions out while it runs. The same bundle
comes out of files from which these lines have been cut beforehand, if the lines of every debug
region that are cut together have as many opening as closing braces. Regions that follow each other
without a line between are cut together, so their braces are counted together.

The two runs are not aligned: the run over the rest stands still while the other goes through a
region. Their depths differ inside a region and agree again behind it.

* `IsStretch`, `BalancedRegions`: maximal runs of lines in debug regions, and their braces.
* `keptDepth_eq_of_not_inRegion`: outside debug regions the depths of the two runs agree.
* `Aligned`: how the two runs are related after every line. `Aligned.step_of_inRegion` and
  `Aligned.step_of_not_inRegion` are one line, and `aligned_run` is the whole run.
* `value_mergeFiles_withoutRegions`: whole merges.
-/

namespace PluginMerge

variable {ls : List Text} {l : Text} {a i : Nat}

/-! ## Cutting regions out -/

/-- Line `i`, if it lies outside debug regions. -/
def keptAt? (ls : List Text) (i : Nat) : Option Text := if InRegion ls i then none else ls[i]?

/-- The lines before line `i` that lie outside debug regions. -/
def keptBefore (ls : List Text) (i : Nat) : List Text := (List.range i).filterMap (keptAt? ls)

/-- The file without the lines that lie in debug regions. -/
def SourceFile.withoutRegions (f : SourceFile) : SourceFile :=
  { f with lines := keptBefore f.lines f.lines.length }

/-- The lines from `a` up to `b - 1` lie in debug regions, and no further line beside them does. -/
def IsStretch (ls : List Text) (a b : Nat) : Prop :=
  (∀ i, i < b → a ≤ i → InRegion ls i) ∧ (a = 0 ∨ ¬ InRegion ls (a - 1)) ∧
    (b = ls.length ∨ ¬ InRegion ls b)

instance (ls : List Text) (a b : Nat) : Decidable (IsStretch ls a b) :=
  inferInstanceAs (Decidable (_ ∧ _))

/-- Every maximal run of lines in debug regions has as many opening as closing braces. -/
def BalancedRegions (ls : List Text) : Prop :=
  ∀ b, b ≤ ls.length → ∀ a, a < b → IsStretch ls a b →
    (((ls.take b).drop a).map Line.braceDelta).sum = 0

instance (ls : List Text) : Decidable (BalancedRegions ls) :=
  inferInstanceAs (Decidable (∀ b, b ≤ ls.length → _))

theorem keptBefore_succ (ls : List Text) (i : Nat) :
    keptBefore ls (i + 1) = keptBefore ls i ++ (keptAt? ls i).toList :=
  filterMap_range_succ _ i

theorem keptAt?_of_inRegion (h : InRegion ls i) : keptAt? ls i = none := if_pos h

theorem keptAt?_of_not_inRegion (hl : ls[i]? = some l) (h : ¬ InRegion ls i) :
    keptAt? ls i = some l := (if_neg h).trans hl

theorem mem_of_mem_keptBefore (h : l ∈ keptBefore ls i) : l ∈ ls := by
  obtain ⟨k, -, hk⟩ := List.mem_filterMap.mp h
  unfold keptAt? at hk
  split at hk
  · cases hk
  · exact List.mem_of_getElem? hk

/-! ## Depth -/

/-- The depth behind the lines before line `i` that lie outside debug regions. -/
def keptDepth (ls : List Text) (i : Nat) : Int := ((keptBefore ls i).map Line.braceDelta).sum

theorem keptDepth_succ_of_inRegion (h : InRegion ls i) :
    keptDepth ls (i + 1) = keptDepth ls i := by
  simp [keptDepth, keptBefore_succ, keptAt?_of_inRegion h]

theorem keptDepth_succ_of_not_inRegion (hl : ls[i]? = some l) (h : ¬ InRegion ls i) :
    keptDepth ls (i + 1) = depthAfter (keptDepth ls i) l := by
  simp [keptDepth, depthAfter, keptBefore_succ, keptAt?_of_not_inRegion hl h]

theorem depthBefore_add_drop {b : Nat} (h : a ≤ b) :
    depthBefore ls b = depthBefore ls a + (((ls.take b).drop a).map Line.braceDelta).sum := by
  unfold depthBefore
  rw [← List.sum_append, ← List.map_append]
  conv_lhs => rw [← List.take_append_drop a (ls.take b)]
  rw [List.take_take, Nat.min_eq_left h]

/-- Across a whole stretch of a region the depth is the same again. -/
theorem BalancedRegions.depthBefore_eq (hBalanced : BalancedRegions ls) {b : Nat}
    (hb : b ≤ ls.length) (hab : a ≤ b) (hStretch : IsStretch ls a b) :
    depthBefore ls b = depthBefore ls a := by
  rcases Nat.lt_or_eq_of_le hab with hlt | rfl
  · rw [depthBefore_add_drop hab, hBalanced b hb a hlt hStretch, add_zero]
  · rfl

/-- The depth of the lines outside regions is the depth in front of the stretch that ends at
line `i`. -/
theorem keptDepth_eq_depthBefore (hBalanced : BalancedRegions ls) (hi : i ≤ ls.length) :
    ∃ a, a ≤ i ∧ (∀ k, k < i → a ≤ k → InRegion ls k) ∧ (a = 0 ∨ ¬ InRegion ls (a - 1)) ∧
      keptDepth ls i = depthBefore ls a := by
  induction i with
  | zero => exact ⟨0, Nat.le_refl 0, fun k hk => absurd hk (Nat.not_lt_zero k), Or.inl rfl, rfl⟩
  | succ i ih =>
    obtain ⟨a, hai, hInside, hLeft, hDepth⟩ := ih (Nat.le_of_succ_le hi)
    obtain ⟨l, hl⟩ : ∃ l, ls[i]? = some l := ⟨_, List.getElem?_eq_getElem hi⟩
    by_cases hRegion : InRegion ls i
    · refine ⟨a, by omega, fun k hk hak => ?_, hLeft, ?_⟩
      · rcases Nat.lt_succ_iff_lt_or_eq.mp hk with hlt | rfl
        · exact hInside k hlt hak
        · exact hRegion
      · rw [keptDepth_succ_of_inRegion hRegion, hDepth]
    · refine ⟨i + 1, Nat.le_refl _, fun k hk hik => by omega, Or.inr hRegion, ?_⟩
      have hEqual := hBalanced.depthBefore_eq (Nat.le_of_succ_le hi) hai
        ⟨hInside, hLeft, Or.inr hRegion⟩
      rw [keptDepth_succ_of_not_inRegion hl hRegion, hDepth, ← hEqual, depthBefore_succ hl]

/-- Outside of balanced regions it makes no difference to the depth whether the regions are cut out
or passed. -/
theorem keptDepth_eq_of_not_inRegion (hBalanced : BalancedRegions ls) (hi : i ≤ ls.length)
    (hRegion : ¬ InRegion ls i) : keptDepth ls i = depthBefore ls i := by
  obtain ⟨a, hai, hInside, hLeft, hDepth⟩ := keptDepth_eq_depthBefore hBalanced hi
  rw [hDepth, hBalanced.depthBefore_eq hi hai ⟨hInside, hLeft, Or.inr hRegion⟩]

/-! ## The two runs -/

/-- How the run over the lines outside regions (`kept`) stands to the run over all lines (`all`)
in front of line `i`. -/
structure Aligned (ls : List Text) (i : Nat) (all kept : Bundle × Cursor) : Prop where
  bundle : kept.1 = all.1
  current : kept.2.current = all.2.current
  depth : kept.2.depth = keptDepth ls i
  region : kept.2.region = ⟨false⟩

variable {all kept : Bundle × Cursor} {path : Text}

/-- Over a line of a region only one of the runs moves, and it does nothing else. -/
theorem Aligned.step_of_inRegion (h : Aligned ls i all kept) (hDebug : all.1.debug = false)
    (hCursor : all.2 = cursorAt false path ls i) (hl : ls[i]? = some l)
    (hRegion : InRegion ls i) :
    Aligned ls (i + 1) (all.1.mergeLine all.2.next l).value kept := by
  have hRole : all.2.next.role all.1.debug l = .skipped := by
    rw [hDebug, hCursor]
    exact role_cursorAt_of_filtered path hl ⟨rfl, hRegion⟩
  rw [Bundle.value_mergeLine, hRole]
  refine ⟨h.bundle, ?_, ?_, h.region⟩
  · rw [h.current]
    simp only [Cursor.advance, hRole]
    rfl
  · rw [h.depth, keptDepth_succ_of_inRegion hRegion]

/-- Over any other line the two runs move together. -/
theorem Aligned.step_of_not_inRegion (h : Aligned ls i all kept) (hDebug : all.1.debug = false)
    (hCursor : all.2 = cursorAt false path ls i) (hl : ls[i]? = some l)
    (hRegion : ¬ InRegion ls i) (hDepth : keptDepth ls i = depthBefore ls i) :
    Aligned ls (i + 1) (all.1.mergeLine all.2.next l).value
      (kept.1.mergeLine kept.2.next l).value := by
  have hStart : Line.startsRegion l = false := by
    rw [← startsAt_eq hl, ← Bool.not_eq_true]
    exact fun hStart => hRegion (inRegion_iff.mpr (Or.inl hStart))
  have hEnterKept : kept.2.next.region.enter l = ⟨false⟩ := by
    simp [Cursor.next, Region.enter, hStart, h.region]
  have hEnterAll : all.2.next.region.enter l = ⟨false⟩ := by
    rw [hCursor, enter_cursorAt false path hl]
    simp [hRegion]
  have hDepths : kept.2.next.depth = all.2.next.depth := by
    rw [hCursor]
    exact h.depth.trans hDepth
  have hRole : kept.2.next.role false l = all.2.next.role false l :=
    Cursor.role_congr (by rw [hEnterKept, hEnterAll]) hDepths
  have hCurrent : kept.2.next.current = all.2.next.current := h.current
  rw [Bundle.value_mergeLine, Bundle.value_mergeLine, h.bundle, hDebug, hRole]
  refine ⟨Bundle.value_play_congr hCurrent, ?_, ?_, ?_⟩
  · simp only [Cursor.advance, hRole, hCurrent]
  · rw [keptDepth_succ_of_not_inRegion hl hRegion, ← h.depth]
    rfl
  · simp only [Cursor.advance, hEnterKept, Region.leave]
    split <;> rfl

/-- After every line of a file with balanced regions the two runs are aligned. -/
theorem aligned_run (hBalanced : BalancedRegions ls) {b : Bundle} (hDebug : b.debug = false)
    (path : Text) (hi : i ≤ ls.length) :
    Aligned ls i (b.mergeLines { path } (ls.take i)).value
      (b.mergeLines { path } (keptBefore ls i)).value := by
  induction i with
  | zero => exact ⟨rfl, rfl, rfl, rfl⟩
  | succ i ih =>
    obtain ⟨l, hl⟩ : ∃ l, ls[i]? = some l := ⟨_, List.getElem?_eq_getElem hi⟩
    have hBefore := ih (Nat.le_of_succ_le hi)
    have hCursor := cursor_mergeLines_take b path (Nat.le_of_succ_le hi)
    rw [hDebug] at hCursor
    have hFlag := (Bundle.debug_mergeLines b { path } (ls.take i)).trans hDebug
    rw [Bundle.mergeLines_take_succ b _ hl, Logged.value_bind]
    by_cases hRegion : InRegion ls i
    · rw [keptBefore_succ, keptAt?_of_inRegion hRegion, Option.toList_none, List.append_nil]
      exact hBefore.step_of_inRegion hFlag hCursor hl hRegion
    · rw [keptBefore_succ, keptAt?_of_not_inRegion hl hRegion, Option.toList_some,
        Bundle.mergeLines_append, Logged.value_bind]
      exact hBefore.step_of_not_inRegion hFlag hCursor hl hRegion
        (keptDepth_eq_of_not_inRegion hBalanced (Nat.le_of_succ_le hi) hRegion)

/-! ## Whole merges -/

/-- A file contributes the same with its regions skipped and with its regions cut out beforehand. -/
theorem value_mergeFile_withoutRegions {b : Bundle} (hDebug : b.debug = false) {f : SourceFile}
    (hBalanced : BalancedRegions f.lines) :
    (b.mergeFile f.withoutRegions).value = (b.mergeFile f).value := by
  have hBundle := (aligned_run hBalanced hDebug f.path (Nat.le_refl _)).bundle
  rw [List.take_length] at hBundle
  simp only [Bundle.mergeFile, Logged.value_bind, Logged.value_pure]
  rw [← hBundle]
  rfl

theorem value_mergeEach_withoutRegions {b : Bundle} (hDebug : b.debug = false)
    {files : List SourceFile} (hBalanced : ∀ f ∈ files, BalancedRegions f.lines) :
    (b.mergeEach (files.map SourceFile.withoutRegions)).value = (b.mergeEach files).value := by
  induction files generalizing b with
  | nil => rfl
  | cons f rest ih =>
    have hFile := value_mergeFile_withoutRegions hDebug (hBalanced f List.mem_cons_self)
    have hRest := fun g hg => hBalanced g (List.mem_cons_of_mem f hg)
    rw [List.map_cons, Bundle.mergeEach, Bundle.mergeEach, Logged.value_bind, Logged.value_bind,
      hFile]
    exact ih ((Bundle.debug_mergeFile b f).trans hDebug) hRest

theorem not_debugOn_withoutRegions {files : List SourceFile} (h : ¬ DebugOn files) :
    ¬ DebugOn (files.map SourceFile.withoutRegions) := by
  rintro ⟨g, hg, l, hl, hEnables⟩
  obtain ⟨f, hf, rfl⟩ := List.mem_map.mp hg
  exact h ⟨f, hf, l, mem_of_mem_keptBefore hl, hEnables⟩

/-- **Filtering in line is preprocessing.** Where no line switches debugging on and debug regions
are balanced, cutting the regions out beforehand changes nothing in the bundle. -/
theorem value_mergeFiles_withoutRegions (name version : Text) {files : List SourceFile}
    (hDebug : ¬ DebugOn files) (hBalanced : ∀ f ∈ files, BalancedRegions f.lines) :
    (mergeFiles name version files).value =
      (mergeFiles name version (files.map SourceFile.withoutRegions)).value := by
  rw [mergeFiles, mergeFiles, debugFlag_of_not_debugOn hDebug,
    debugFlag_of_not_debugOn (not_debugOn_withoutRegions hDebug), pure_bind, pure_bind]
  exact (value_mergeEach_withoutRegions rfl hBalanced).symm

/-- A file with an end mark outside any region, a region that is started twice and opens and closes
a brace, another region right behind it, and one that runs to the end of the file. -/
def raggedRegions : SourceFile where
  path := "Main.cs".toList
  lines := ["//OX.DEBUGEND".toList, "namespace A \x7b".toList, "//OX.DEBUGSTART \x7b".toList,
    "//OX.DEBUGSTART".toList, "\x7d //OX.DEBUGEND".toList,
    "//OX.DEBUGSTART using X; //OX.DEBUGEND".toList, "int x;".toList, "\x7d".toList,
    "//OX.DEBUGSTART".toList, "namespace B".toList]

theorem value_mergeFiles_raggedRegions :
    ¬ DebugOn [raggedRegions] ∧ (∀ f ∈ [raggedRegions], BalancedRegions f.lines) ∧
      (mergeFiles "P".toList "1".toList [raggedRegions]).value =
        (mergeFiles "P".toList "1".toList
          ([raggedRegions].map SourceFile.withoutRegions)).value := by
  have hDebug : ¬ DebugOn [raggedRegions] := by decide +kernel
  have hBalanced : ∀ f ∈ [raggedRegions], BalancedRegions f.lines := by decide +kernel
  exact ⟨hDebug, hBalanced,
    value_mergeFiles_withoutRegions "P".toList "1".toList hDebug hBalanced⟩

end PluginMerge
