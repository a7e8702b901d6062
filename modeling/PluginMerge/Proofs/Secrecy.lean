import PluginMerge.Proofs.ClosedForm

/-!
# Debug regions keep their secrets

Without debugging, the text of a debug region has no influence on a merge beyond its braces and
its marks. Two lists of files that differ inside debug regions only, line by line and with the same
braces and marks, give the same bundle and the same log. This concerns every line of a region:
the lines with the marks too, and lines that look like declarations, imports or directives.

* `Line.SameFrame`: two lines with the same braces and marks.
* `SourceFile.SameOutside`: two files that differ inside debug regions only.
* `Bundle.mergeLine_eq_of_skipped`: one line of a region.
* `Bundle.mergeLines_take_eq`: the two runs agree after every line.
* `mergeFiles_eq_of_sameOutside`: whole merges, with their logs.
-/

namespace PluginMerge

/-- Two lines that no tracker tells apart: they have the same braces and the same marks. -/
def Line.SameFrame (l m : Text) : Prop :=
  Line.braceDelta l = Line.braceDelta m ∧ Line.startsRegion l = Line.startsRegion m ∧
    Line.endsRegion l = Line.endsRegion m

instance (l m : Text) : Decidable (Line.SameFrame l m) := inferInstanceAs (Decidable (_ ∧ _))

/-- Two files that differ inside debug regions only. -/
def SourceFile.SameOutside (f g : SourceFile) : Prop :=
  f.path = g.path ∧ f.lines.length = g.lines.length ∧
    ∀ i, i < f.lines.length → ∀ l ∈ f.lines[i]?, ∀ m ∈ g.lines[i]?,
      l = m ∨ (InRegion f.lines i ∧ Line.SameFrame l m)

instance (f g : SourceFile) : Decidable (f.SameOutside g) := inferInstanceAs (Decidable (_ ∧ _))

theorem Logged.bind_eq_of_value {α β : Type} {x : Logged α} {s t : α → Logged β}
    (h : s x.value = t x.value) : x >>= s = x >>= t := by
  ext1
  · rw [value_bind, value_bind, h]
  · rw [log_bind, log_bind, h]

/-! ## One line -/

/-- Skipped lines with the same frame move the cursor alike. -/
theorem Cursor.advance_eq_of_skipped {c : Cursor} {debug : Bool} {l m : Text}
    (hFrame : Line.SameFrame l m) (hl : c.role debug l = .skipped)
    (hm : c.role debug m = .skipped) : c.advance debug l = c.advance debug m := by
  obtain ⟨hBraces, hStart, hEnd⟩ := hFrame
  simp only [Cursor.advance, hl, hm, depthAfter, hBraces, Region.enter, hStart, Region.leave, hEnd]

/-- Whether a line is skipped shows in its frame. -/
theorem Cursor.role_eq_skipped_of_sameFrame {c : Cursor} {debug : Bool} {l m : Text}
    (hFrame : Line.SameFrame l m) (hl : c.role debug l = .skipped) :
    c.role debug m = .skipped := by
  rw [Cursor.role_eq_skipped_iff] at hl ⊢
  have hEnter : c.region.enter l = c.region.enter m := by
    simp only [Region.enter, hFrame.2.1]
  rwa [← hEnter]

namespace Bundle

variable {b : Bundle} {c : Cursor} {l m : Text}

/-- A line that is left out may be replaced by any other with the same braces and marks. -/
theorem mergeLine_eq_of_skipped (hFrame : Line.SameFrame l m)
    (hl : c.role b.debug l = .skipped) : b.mergeLine c l = b.mergeLine c m := by
  have hm := Cursor.role_eq_skipped_of_sameFrame hFrame hl
  rw [mergeLine_eq, mergeLine_eq, hl, hm, Cursor.advance_eq_of_skipped hFrame hl hm]
  rfl

/-! ## One file -/

variable {f g : SourceFile} {i : Nat}

/-- The step for one line, along the first lines of both files: the bundles, the cursors and the
records agree all the way. -/
theorem mergeLines_take_eq (hDebug : b.debug = false) (h : f.SameOutside g)
    (hi : i ≤ f.lines.length) :
    b.mergeLines { path := f.path } (f.lines.take i) =
      b.mergeLines { path := f.path } (g.lines.take i) := by
  obtain ⟨-, hLength, hLines⟩ := h
  induction i with
  | zero => rfl
  | succ i ih =>
    obtain ⟨l, hl⟩ : ∃ l, f.lines[i]? = some l := ⟨_, List.getElem?_eq_getElem hi⟩
    obtain ⟨m, hm⟩ : ∃ m, g.lines[i]? = some m :=
      ⟨_, List.getElem?_eq_getElem (hLength ▸ hi)⟩
    have hCursor := cursor_mergeLines_take b f.path (Nat.le_of_succ_le hi)
    have hFlag := debug_mergeLines b { path := f.path } (f.lines.take i)
    rw [mergeLines_take_succ b _ hl, mergeLines_take_succ b _ hm, ← ih (Nat.le_of_succ_le hi)]
    apply Logged.bind_eq_of_value
    rcases hLines i hi l hl m hm with rfl | ⟨hRegion, hFrame⟩
    · rfl
    · apply mergeLine_eq_of_skipped hFrame
      rw [hCursor, hFlag]
      exact role_cursorAt_of_filtered f.path hl ⟨hDebug, hRegion⟩

theorem mergeFile_eq_of_sameOutside (hDebug : b.debug = false) (h : f.SameOutside g) :
    b.mergeFile f = b.mergeFile g := by
  have hRun := mergeLines_take_eq hDebug h (Nat.le_refl _)
  rw [List.take_length, h.2.1, List.take_length] at hRun
  rw [mergeFile, mergeFile, hRun, h.1]

theorem mergeEach_eq_of_sameOutside {fs gs : List SourceFile} (hDebug : b.debug = false)
    (h : List.Forall₂ SourceFile.SameOutside fs gs) : b.mergeEach fs = b.mergeEach gs := by
  induction h generalizing b with
  | nil => rfl
  | @cons f g fs gs hFile _ ih =>
    rw [mergeEach, mergeEach, mergeFile_eq_of_sameOutside hDebug hFile]
    apply Logged.bind_eq_of_value
    exact ih ((debug_mergeFile b g).trans hDebug)

end Bundle

/-! ## Whole merges -/

/-- **Debug-only text does not leak.** Where no line switches debugging on, files that differ
inside debug regions only give the same bundle and the same log, at every level. -/
theorem mergeFiles_eq_of_sameOutside (name version : Text) {fs gs : List SourceFile}
    (hf : ¬ DebugOn fs) (hg : ¬ DebugOn gs) (h : List.Forall₂ SourceFile.SameOutside fs gs) :
    mergeFiles name version fs = mergeFiles name version gs := by
  rw [mergeFiles, mergeFiles, debugFlag_of_not_debugOn hf, debugFlag_of_not_debugOn hg, pure_bind,
    pure_bind]
  exact Bundle.mergeEach_eq_of_sameOutside rfl h

/-- A file with a debug region in front of a namespace and another one inside it. The first holds a
line that opens a block, the second begins with the given line. -/
def twoRegions (block start : Text) : SourceFile where
  path := "Main.cs".toList
  lines := ["//OX.DEBUGSTART".toList, block, "\x7d //OX.DEBUGEND".toList,
    "namespace A \x7b".toList, "int x;".toList, start, "//OX.DEBUGEND".toList, "\x7d".toList]

/-- Neither a declaration nor an import nor a directive is told from other text. -/
theorem mergeFiles_twoRegions :
    let f := twoRegions "namespace Hidden \x7b".toList
      "//OX.DEBUGSTART //OX.INSERT(PluginInfo me site/1234 git)".toList
    let g := twoRegions "using Hidden; \x7b".toList "int y; //OX.DEBUGSTART".toList
    ¬ DebugOn [f] ∧ ¬ DebugOn [g] ∧ List.Forall₂ SourceFile.SameOutside [f] [g] ∧
      mergeFiles "P".toList "1".toList [f] = mergeFiles "P".toList "1".toList [g] := by
  intro f g
  have hf : ¬ DebugOn [f] := by decide +kernel
  have hg : ¬ DebugOn [g] := by decide +kernel
  have h : List.Forall₂ SourceFile.SameOutside [f] [g] := .cons (by decide +kernel) .nil
  exact ⟨hf, hg, h, mergeFiles_eq_of_sameOutside "P".toList "1".toList hf hg h⟩

end PluginMerge
