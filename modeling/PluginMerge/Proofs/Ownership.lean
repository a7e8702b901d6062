import PluginMerge.Proofs.Partway

/-!
# Which block a line of a bucket comes from

The current namespace of a file is the one declared last, and closing its block does not end it. A
bucket therefore receives the insides of every block that follows a declaration of its namespace, up
to the next declaration in the file. Those of the namespace's own block are among them; but so are
those of a block further down that stands in no namespace at all.

Such a line belongs to the namespace's own block exactly if the depth has stayed at zero from the
declaration up to the line that opens the block.

* `Opens`: the line that opens the block around a line.
* `LastDeclares`: the declaration that rules at a line.
* `InOwnBlock`: the block opened at a line is the one that a declaration introduces.
* `Bundle.opens_of_linesOf_partway_ne`: the lines that a bucket receives, and when they come from a
  block of its own.
* `not_inOwnBlock_strayBlock`: a bucket with a line from a block that is not its own.
-/

namespace PluginMerge

variable {debug : Bool} {ls : List Text} {i j k : Nat} {n : Text}

/-! ## Blocks and declarations -/

/-- Line `j` opens the block around line `i`: it is the last line before it with depth zero in
front. -/
def Opens (ls : List Text) (j i : Nat) : Prop :=
  j < i ∧ depthBefore ls j = 0 ∧ ∀ m, m < i → j < m → depthBefore ls m ≠ 0

/-- Of the lines up to line `j`, line `k` is the last to declare a namespace, and its name is
`n`. -/
def LastDeclares (debug : Bool) (ls : List Text) (j k : Nat) (n : Text) : Prop :=
  k ≤ j ∧ declaredAt? debug ls k = some n ∧ ∀ m, m ≤ j → k < m → declaredAt? debug ls m = none

/-- The block that line `j` opens is the one that a declaration of `n` introduces: the depth is zero
all the way from the declaration. -/
def InOwnBlock (debug : Bool) (ls : List Text) (j : Nat) (n : Text) : Prop :=
  ∃ k, k ≤ j ∧ declaredAt? debug ls k = some n ∧ ∀ m, m ≤ j → k < m → depthBefore ls m = 0

instance (ls : List Text) (j i : Nat) : Decidable (Opens ls j i) :=
  inferInstanceAs (Decidable (_ ∧ _))

instance (debug : Bool) (ls : List Text) (j k : Nat) (n : Text) :
    Decidable (LastDeclares debug ls j k n) :=
  inferInstanceAs (Decidable (_ ∧ _))

instance (debug : Bool) (ls : List Text) (j : Nat) (n : Text) :
    Decidable (InOwnBlock debug ls j n) :=
  inferInstanceAs (Decidable (∃ k, k ≤ j ∧ _))

theorem exists_opens (h : depthBefore ls i ≠ 0) : ∃ j, Opens ls j i := by
  induction i with
  | zero => exact absurd (depthBefore_zero ls) h
  | succ i ih =>
    by_cases hBefore : depthBefore ls i = 0
    · exact ⟨i, Nat.lt_succ_self i, hBefore, fun m hm him => by omega⟩
    · obtain ⟨j, hj, hTop, hInside⟩ := ih hBefore
      refine ⟨j, Nat.lt_succ_of_lt hj, hTop, fun m hm hjm => ?_⟩
      rcases Nat.lt_succ_iff_lt_or_eq.mp hm with hlt | rfl
      · exact hInside m hlt hjm
      · exact hBefore

theorem exists_declaredAt?_of_getLast? (h : (namesBefore debug ls i).getLast? = some n) :
    ∃ k, k < i ∧ declaredAt? debug ls k = some n ∧
      ∀ m, m < i → k < m → declaredAt? debug ls m = none := by
  induction i with
  | zero => cases h
  | succ i ih =>
    rw [namesBefore_succ] at h
    cases hDeclared : declaredAt? debug ls i with
    | some declared =>
      rw [hDeclared, Option.toList_some, List.getLast?_concat] at h
      exact ⟨i, Nat.lt_succ_self i, hDeclared.trans h, fun m hm him => by omega⟩
    | none =>
      rw [hDeclared, Option.toList_none, List.append_nil] at h
      obtain ⟨k, hk, hName, hLast⟩ := ih h
      refine ⟨k, Nat.lt_succ_of_lt hk, hName, fun m hm hkm => ?_⟩
      rcases Nat.lt_succ_iff_lt_or_eq.mp hm with hlt | rfl
      · exact hLast m hlt hkm
      · exact hDeclared

/-- Inside a block nothing is declared, so the namespace there is the one that the lines up to its
opening declare last. -/
theorem Opens.exists_lastDeclares (hOpens : Opens ls j i)
    (h : (namesBefore debug ls i).getLast? = some n) : ∃ k, LastDeclares debug ls j k n := by
  obtain ⟨hj, -, hInside⟩ := hOpens
  obtain ⟨k, hk, hName, hLast⟩ := exists_declaredAt?_of_getLast? h
  -- A later declaration would stand between braces, where it is none.
  have hkj : k ≤ j := by
    by_contra hjk
    have hTop : ¬ AtTop debug ls k := fun hTop => hInside k hk (by omega) hTop.2
    rw [declaredAt?_of_not_atTop hTop] at hName
    cases hName
  exact ⟨k, hkj, hName, fun m hm hkm => hLast m (by omega) hkm⟩

/-- A line is in the block of its namespace if and only if no block was opened and closed since the
declaration. -/
theorem LastDeclares.inOwnBlock_iff (h : LastDeclares debug ls j k n) :
    InOwnBlock debug ls j n ↔ ∀ m, m ≤ j → k < m → depthBefore ls m = 0 := by
  obtain ⟨hkj, hName, hLast⟩ := h
  constructor
  · rintro ⟨k', hk', hName', hDepth⟩ m hm hkm
    have hle : k' ≤ k := by
      by_contra hlt
      rw [hLast k' hk' (by omega)] at hName'
      cases hName'
    exact hDepth m hm (by omega)
  · intro hDepth
    exact ⟨k, hkj, hName, hDepth⟩

/-! ## The run -/

namespace Bundle

variable (name version : Text) (debug : Bool) (front : List SourceFile) {f : SourceFile}

/-- **The lines that a bucket receives.** If a line changes the bucket of a namespace, it stands
between braces and its output is put at the end of the bucket. The namespace is the one declared
last before the block around the line was opened. The block is the namespace's own exactly if the
depth has been zero ever since. -/
theorem opens_of_linesOf_partway_ne (hi : i < f.lines.length) {n : Text}
    (hChanged : (partway name version debug front f (i + 1)).linesOf n ≠
      (partway name version debug front f i).linesOf n) :
    InBody debug f.lines i ∧
      (partway name version debug front f (i + 1)).linesOf n =
        (partway name version debug front f i).linesOf n ++
          outputAt name version debug f.lines i ∧
      ∃ j k, Opens f.lines j i ∧ LastDeclares debug f.lines j k n ∧
        (InOwnBlock debug f.lines j n ↔ ∀ m, m ≤ j → k < m → depthBefore f.lines m = 0) := by
  have hStep := linesOf_partway_succ name version debug front hi n
  have hCurrent : namespaceAt debug f.lines i = some n := by
    by_contra hOther
    rw [if_neg hOther, List.append_nil] at hStep
    exact hChanged hStep
  rw [if_pos hCurrent] at hStep
  have hBody : InBody debug f.lines i := by
    by_contra hOutside
    rw [outputAt_of_not_inBody name version hOutside, List.append_nil] at hStep
    exact hChanged hStep
  obtain ⟨j, hOpens⟩ := exists_opens hBody.2.1
  have hNamespace := (namespaceAt_of_inBody hBody).symm.trans hCurrent
  obtain ⟨k, hLast⟩ := hOpens.exists_lastDeclares hNamespace
  exact ⟨hBody, hStep, j, k, hOpens, hLast, hLast.inOwnBlock_iff⟩

end Bundle

/-! ## A block that is not the namespace's own -/

/-- A namespace block and behind it a block that stands in no namespace. -/
def strayBlock : SourceFile where
  path := "Main.cs".toList
  lines := ["namespace N \x7b".toList, "int a;".toList, "\x7d".toList, "class Loose \x7b".toList,
    "int b;".toList, "\x7d".toList]

/-- The line of the namespace's own block. -/
theorem opens_strayBlock_own :
    let run := Bundle.partway "P".toList "1".toList false [] strayBlock
    (run 2).linesOf "N".toList ≠ (run 1).linesOf "N".toList ∧
      InBody false strayBlock.lines 1 ∧
      (run 2).linesOf "N".toList = (run 1).linesOf "N".toList ++
        outputAt "P".toList "1".toList false strayBlock.lines 1 ∧
      ∃ j k, Opens strayBlock.lines j 1 ∧ LastDeclares false strayBlock.lines j k "N".toList ∧
        (InOwnBlock false strayBlock.lines j "N".toList ↔
          ∀ m, m ≤ j → k < m → depthBefore strayBlock.lines m = 0) := by
  intro run
  have hChanged : (run 2).linesOf "N".toList ≠ (run 1).linesOf "N".toList := by decide +kernel
  exact ⟨hChanged, Bundle.opens_of_linesOf_partway_ne "P".toList "1".toList false [] (by decide)
    hChanged⟩

/-- The line of the stray block goes to the bucket too, although the namespace's block has been
closed. It is not dropped. -/
theorem not_inOwnBlock_strayBlock :
    let run := Bundle.partway "P".toList "1".toList false [] strayBlock
    (run 5).linesOf "N".toList = (run 4).linesOf "N".toList ++ ["int b;".toList] ∧
      Opens strayBlock.lines 3 4 ∧ ¬ InOwnBlock false strayBlock.lines 3 "N".toList ∧
      (mergeFiles "P".toList "1".toList [strayBlock]).value.buckets =
        [("N".toList, ["int a;".toList, "int b;".toList])] ∧
      (mergeFiles "P".toList "1".toList [strayBlock]).value.droppedLines = 0 := by
  decide +kernel

end PluginMerge
