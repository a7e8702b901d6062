import Mathlib.Data.List.Induction
import PluginMerge.Proofs.ClosedForm

/-!
# Merging is a homomorphism

Files are isolated from each other: depth, debug region and namespace start anew in every file,
whatever the file before left open, and no line that is kept depends on what has been gathered.
So merging one list of files behind another is the same as merging each on its own and putting the
two bundles together.

* `Bundle.combine`: two bundles put together.
* `Bundle.ofMaterial_append`: the bundle made of two materials, one behind the other.
* `Bundle.mergeEach_append_eq_combine`: files behind files.
-/

namespace PluginMerge

/-! ## Lists without repetitions, one behind the other -/

variable {α : Type} [BEq α] [LawfulBEq α]

theorem eraseDups_filter (p : α → Bool) (xs : List α) :
    (xs.filter p).eraseDups = xs.eraseDups.filter p := by
  induction xs using List.reverseRecOn with
  | nil => rfl
  | append_singleton xs x ih =>
    rw [List.filter_append, eraseDups_concat]
    by_cases hp : p x = true
    · rw [List.filter_cons_of_pos hp, List.filter_nil, eraseDups_concat, ih]
      by_cases hx : x ∈ xs
      · simp [hx, hp]
      · simp [hx, hp]
    · rw [List.filter_cons_of_neg hp, List.filter_nil, List.append_nil, ih]
      by_cases hx : x ∈ xs
      · simp [hx]
      · simp [hx, hp]

/-- Without repetitions, what stands behind `xs` is kept only if it is not in `xs`. -/
theorem eraseDups_append_eq (xs ys : List α) :
    (xs ++ ys).eraseDups = xs.eraseDups ++ ys.eraseDups.filter fun y => !xs.eraseDups.contains y := by
  rw [List.eraseDups_append, List.removeAll, eraseDups_filter]
  simp

/-! ## Two bundles put together -/

namespace Bundle

/-- Two bundles put together: the imports of the first and then those that are new in the second,
the namespaces likewise, every bucket of the first in front of that of the second, and the
description of the first if it has one. -/
def combine (a b : Bundle) : Bundle :=
  { a with
    imports := a.imports ++ b.imports.filter fun l => !a.imports.contains l
    buckets := (a.namespaces ++ b.namespaces.filter fun n => !a.hasNamespace n).map fun n =>
      (n, a.linesOf n ++ b.linesOf n)
    attribution := if a.attribution.locked then a.attribution else b.attribution
    filesMerged := a.filesMerged + b.filesMerged
    droppedLines := a.droppedLines + b.droppedLines }

variable (name version : Text) (debug : Bool)

/-- The first description counts, so a second list of them matters only if the first is empty. -/
theorem ofInfos_append (infos₁ infos₂ : List PluginInfo) :
    Attribution.ofInfos (infos₁ ++ infos₂) =
      if (Attribution.ofInfos infos₁).locked then Attribution.ofInfos infos₁
      else Attribution.ofInfos infos₂ := by
  cases infos₁ with
  | nil => rfl
  | cons info rest => rfl

/-- The bundle made of two materials, one behind the other. -/
theorem ofMaterial_append (files₁ files₂ : Nat) {m₁ m₂ : Material} (h₁ : m₁.Closed)
    (h₂ : m₂.Closed) :
    ofMaterial name version debug (files₁ + files₂) (m₁ ++ m₂) =
      (ofMaterial name version debug files₁ m₁).combine
        (ofMaterial name version debug files₂ m₂) := by
  have hLines₁ := linesOf_ofMaterial name version debug files₁ h₁
  have hLines₂ := linesOf_ofMaterial name version debug files₂ h₂
  simp only [combine, hLines₁, hLines₂, hasNamespace, namespaces_ofMaterial]
  simp only [ofMaterial, Material.imports_append, Material.names_append, Material.infos_append,
    Material.linesFor_append, eraseDups_append_eq, ofInfos_append, List.length_append]
  rfl

/-- **Merging is a homomorphism.** Files merged behind other files give the two bundles put
together. In particular a file merged behind others contributes what it contributes alone. -/
theorem mergeEach_append_eq_combine (fs gs : List SourceFile) :
    (mergeEach { name, version, debug } (fs ++ gs)).value =
        (mergeEach { name, version, debug } fs).value.combine
          (mergeEach { name, version, debug } gs).value ∧
      ∀ f, ((mergeEach { name, version, debug } fs).value.mergeFile f).value =
        (mergeEach { name, version, debug } fs).value.combine
          (mergeFile { name, version, debug } f).value := by
  have hClosed := Material.closed_ofFiles name version debug
  refine ⟨?_, fun f => ?_⟩
  · simp only [value_mergeEach, ofFiles, Material.ofFiles_append, List.length_append]
    exact ofMaterial_append name version debug fs.length gs.length (hClosed fs) (hClosed gs)
  · have hMerge := value_mergeFile name version debug fs.length (hClosed fs) f
    have hAlone := value_mergeFile name version debug 0 Material.closed_empty f
    rw [value_mergeEach, ofFiles, hMerge, ofMaterial_append name version debug fs.length 1
      (hClosed fs) (Material.closed_ofFile name version debug f)]
    rw [Nat.zero_add, Material.empty_append] at hAlone
    exact congrArg _ hAlone.symm

end Bundle

end PluginMerge
