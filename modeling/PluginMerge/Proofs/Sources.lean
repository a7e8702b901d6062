import PluginMerge.Proofs.Descent

/-!
# The sources below a directory

A search takes the files it meets below a directory, leaves out those with the excluded name, and
sorts the others by their relative paths. The sort is stable, so leaving files out before it is the
same as leaving them out behind it (`filter_mergeSort`). What a single place contributes can
therefore be told apart from what all other places contribute.

* `Disk.sourcesBelow`: what a search finds if no obstacle ends it.
* `Disk.SameBut.others_eq`: the sources other than the one at a place do not depend on what stands
  there.
-/

namespace PluginMerge

/-! ## Stable sorting -/

section Sorting

variable {α : Type} {le : α → α → Bool} {p : α → Bool} {x₁ x₂ y₁ y₂ : List α}

theorem eq_of_append_of_filter (h : x₁ ++ x₂ = y₁ ++ y₂) (hx₁ : ∀ b ∈ x₁, p b = false)
    (hx₂ : ∀ b ∈ x₂, p b = true) (hy₁ : ∀ b ∈ y₁, p b = false) (hy₂ : ∀ b ∈ y₂, p b = true) :
    x₁ = y₁ ∧ x₂ = y₂ := by
  have hBack := congrArg (List.filter p) h
  have hx : x₁.filter p = [] := List.filter_eq_nil_iff.mpr (by simpa using hx₁)
  have hy : y₁.filter p = [] := List.filter_eq_nil_iff.mpr (by simpa using hy₁)
  rw [List.filter_append, List.filter_append, hx, hy, List.filter_eq_self.mpr hx₂,
    List.filter_eq_self.mpr hy₂, List.nil_append, List.nil_append] at hBack
  rw [hBack] at h
  exact ⟨List.append_cancel_right h, hBack⟩

/-- In a sorted list with `a` in it, everything behind `a` is at least `a`. -/
theorem le_of_mem_behind {a b : α} {front back : List α}
    (h : (front ++ a :: back).Pairwise fun x y => le x y = true) (hb : b ∈ back) :
    le a b = true :=
  (List.pairwise_cons.mp (List.pairwise_append.mp h).2.1).1 b hb

/-- Sorting a part of a list gives that part of the sorted list. Only a stable sort does this for
elements of equal rank. -/
theorem filter_mergeSort (hTrans : ∀ a b c, le a b = true → le b c = true → le a c = true)
    (hTotal : ∀ a b, (le a b || le b a) = true) (p : α → Bool) (xs : List α) :
    (xs.mergeSort le).filter p = (xs.filter p).mergeSort le := by
  induction xs with
  | nil => simp
  | cons a xs ih =>
    obtain ⟨x₁, x₂, hAll, hRest, hFront⟩ := List.mergeSort_cons hTrans hTotal a xs
    have hSplit : x₁.filter p ++ x₂.filter p = (xs.filter p).mergeSort le := by
      rw [← List.filter_append, ← hRest, ih]
    rw [hAll, List.filter_append]
    cases ha : p a with
    | false =>
      rw [List.filter_cons_of_neg (by simp [ha]), List.filter_cons_of_neg (by simp [ha]), hSplit]
    | true =>
      -- Sorting puts `a` in front of the first element that is not below it, in both lists.
      obtain ⟨y₁, y₂, hAll', hRest', hFront'⟩ := List.mergeSort_cons hTrans hTotal a (xs.filter p)
      have hSorted := List.pairwise_mergeSort hTrans hTotal (a :: xs)
      have hSorted' := List.pairwise_mergeSort hTrans hTotal (a :: xs.filter p)
      rw [hAll] at hSorted
      rw [hAll'] at hSorted'
      rw [List.filter_cons_of_pos ha, List.filter_cons_of_pos ha, hAll']
      rw [hRest'] at hSplit
      obtain ⟨h₁, h₂⟩ := eq_of_append_of_filter hSplit
        (fun b hb => by simpa using hFront b (List.mem_filter.mp hb).1)
        (fun b hb => le_of_mem_behind hSorted (List.mem_filter.mp hb).1)
        (fun b hb => by simpa using hFront' b hb)
        (fun b hb => le_of_mem_behind hSorted' hb)
      rw [h₁, h₂]

end Sorting

namespace Text

theorem le_trans (a b c : Text) (hab : le a b = true) (hbc : le b c = true) : le a c = true := by
  induction a generalizing b c with
  | nil => rfl
  | cons x xs ih =>
    cases b with
    | nil => cases hab
    | cons y ys =>
      cases c with
      | nil => cases hbc
      | cons z zs =>
        simp only [le, Bool.or_eq_true, decide_eq_true_eq, Bool.and_eq_true, beq_iff_eq] at *
        rcases hab with hxy | ⟨rfl, hTail⟩
        · rcases hbc with hyz | ⟨rfl, -⟩
          · exact Or.inl (by omega)
          · exact Or.inl hxy
        · rcases hbc with hyz | ⟨rfl, hTail'⟩
          · exact Or.inl hyz
          · exact Or.inr ⟨rfl, ih ys zs hTail hTail'⟩

theorem le_total (a b : Text) : (le a b || le b a) = true := by
  induction a generalizing b with
  | nil => rfl
  | cons x xs ih =>
    cases b with
    | nil => rfl
    | cons y ys =>
      have hTail := ih ys
      simp only [le, Bool.or_eq_true, decide_eq_true_eq, Bool.and_eq_true, beq_iff_eq] at *
      rcases Nat.lt_trichotomy x.toNat y.toNat with hlt | heq | hgt
      · exact Or.inl (Or.inl hlt)
      · have hxy : x = y := Char.toNat_inj.mp heq
        subst hxy
        rcases hTail with h | h
        · exact Or.inl (Or.inr ⟨rfl, h⟩)
        · exact Or.inr (Or.inr ⟨rfl, h⟩)
      · exact Or.inr (Or.inl hgt)

end Text

/-! ## Files below a directory -/

theorem Found.le_trans (f g h : Found) (hfg : f.le g = true) (hgh : g.le h = true) :
    f.le h = true :=
  Text.le_trans f.path g.path h.path hfg hgh

theorem Found.le_total (f g : Found) : (f.le g || g.le f) = true := Text.le_total f.path g.path

namespace Disk

variable {d d' : Disk} {root l : Location} {reach : Nat} {f : Found} {files : List Found}

theorem mem_sourcesAmong : f ∈ sourcesAmong files ↔ f ∈ files ∧ f.isExcluded = false := by
  simp [sourcesAmong]

theorem filter_sourcesAmong (p : Found → Bool) (files : List Found) :
    (sourcesAmong files).filter p = sourcesAmong (files.filter p) := by
  rw [sourcesAmong, sourcesAmong, filter_mergeSort Found.le_trans Found.le_total, List.filter_comm]

/-- The sources below a directory, as a search finds them if no obstacle ends it. -/
def sourcesBelow (d : Disk) (root : Location) (reach : Nat) : List Found :=
  sourcesAmong (d.filesWithin root (reach + 1) [])

/-- The sources below a directory other than the one at a place. -/
def othersBelow (d : Disk) (root : Location) (reach : Nat) (l : Location) : List Found :=
  (d.sourcesBelow root reach).filter fun f => root ++ f.below ≠ l

/-- The sources other than the target are the same before and after it is written. -/
theorem SameBut.others_eq (h : SameBut l d d') (hd : d.get? l ≠ some .directory)
    (hd' : d'.get? l ≠ some .directory) (root : Location) (reach : Nat) :
    d'.othersBelow root reach l = d.othersBelow root reach l := by
  simp only [othersBelow, sourcesBelow, filter_sourcesAmong]
  exact congrArg sourcesAmong (h.filter_filesWithin hd hd' root (reach + 1) [])

end Disk

end PluginMerge
