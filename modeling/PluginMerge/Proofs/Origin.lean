import Mathlib.Data.List.Induction
import Mathlib.Data.List.Nodup
import PluginMerge.Proofs.ClosedForm

/-!
# Where the parts of a bundle come from

Everything in the bundle of a merge goes back to a line of some file, and that line says what it is:
an import to an import line, a namespace to a declaration, a line of a bucket to a line that it is
the output of. Imports and namespaces are in the bundle once.
-/

namespace PluginMerge

theorem nodup_eraseDups {α : Type} [BEq α] [LawfulBEq α] (xs : List α) : xs.eraseDups.Nodup := by
  induction xs using List.reverseRecOn with
  | nil => exact List.nodup_nil
  | append_singleton xs x ih =>
    rw [eraseDups_concat]
    split
    · exact ih
    · rename_i hx
      have hNew : x ∉ xs.eraseDups := fun hMem => hx (List.mem_eraseDups.mp hMem)
      exact ih.append (List.nodup_singleton x) (List.disjoint_singleton.mpr hNew)

variable {name version : Text} {debug : Bool} {files : List SourceFile} {ls : List Text}
  {l n x : Text} {i : Nat}

theorem of_importAt? (h : importAt? debug ls i = some l) :
    l ∈ ls ∧ Line.isNamespace l = false ∧ Line.isImport l = true := by
  unfold importAt? at h
  split at h
  · rw [Option.filter_eq_some_iff] at h
    obtain ⟨hl, hKind⟩ := h
    exact ⟨List.mem_of_getElem? hl, by simpa using hKind⟩
  · cases h

theorem of_declaredAt? (h : declaredAt? debug ls i = some n) :
    ∃ l ∈ ls, Line.isNamespace l = true ∧ n = Line.namespaceName l := by
  unfold declaredAt? at h
  split at h
  · obtain ⟨l, hl, rfl⟩ := Option.map_eq_some_iff.mp h
    rw [Option.filter_eq_some_iff] at hl
    exact ⟨l, List.mem_of_getElem? hl.1, hl.2, rfl⟩
  · cases h

/-- Every line of the output comes from a line of the input. -/
theorem of_mem_outputAt (h : x ∈ outputAt name version debug ls i) :
    ∃ l ∈ ls, x ∈ Line.output name version l := by
  unfold outputAt at h
  split at h
  · cases hl : ls[i]? with
    | none => simp [hl] at h
    | some l => exact ⟨l, List.mem_of_getElem? hl, by simpa [hl] using h⟩
  · cases h

namespace Bundle

theorem nodup_imports_ofFiles : (ofFiles name version debug files).imports.Nodup :=
  nodup_eraseDups _

theorem nodup_namespaces_ofFiles : (ofFiles name version debug files).namespaces.Nodup := by
  rw [ofFiles, namespaces_ofMaterial]
  exact nodup_eraseDups _

theorem of_mem_imports_ofFiles (h : l ∈ (ofFiles name version debug files).imports) :
    ∃ f ∈ files, l ∈ f.lines ∧ Line.isNamespace l = false ∧ Line.isImport l = true := by
  obtain ⟨f, hf, hl⟩ := List.mem_flatMap.mp (List.mem_eraseDups.mp h)
  obtain ⟨i, -, hi⟩ := List.mem_filterMap.mp hl
  exact ⟨f, hf, of_importAt? hi⟩

theorem of_mem_namespaces_ofFiles (h : n ∈ (ofFiles name version debug files).namespaces) :
    ∃ f ∈ files, ∃ l ∈ f.lines, Line.isNamespace l = true ∧ n = Line.namespaceName l := by
  rw [ofFiles, namespaces_ofMaterial, List.mem_eraseDups] at h
  obtain ⟨f, hf, hn⟩ := List.mem_flatMap.mp h
  obtain ⟨i, -, hi⟩ := mem_namesBefore.mp hn
  exact ⟨f, hf, of_declaredAt? hi⟩

theorem of_mem_buckets_ofFiles {bucket : Text × List Text}
    (h : bucket ∈ (ofFiles name version debug files).buckets) (hx : x ∈ bucket.2) :
    ∃ f ∈ files, ∃ l ∈ f.lines, x ∈ Line.output name version l := by
  obtain ⟨target, -, rfl⟩ := List.mem_map.mp h
  obtain ⟨⟨current, y⟩, hy, rfl⟩ := List.mem_map.mp hx
  obtain ⟨f, hf, hLine⟩ := List.mem_flatMap.mp (List.mem_filter.mp hy).1
  obtain ⟨i, -, hi⟩ := List.mem_flatMap.mp hLine
  obtain ⟨z, hz, hPair⟩ := List.mem_map.mp hi
  cases hPair
  exact ⟨f, hf, of_mem_outputAt hz⟩

end Bundle

end PluginMerge
