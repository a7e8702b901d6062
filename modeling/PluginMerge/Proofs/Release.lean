import PluginMerge.Proofs.ClosedForm

/-!
# A release lies in the debug build

The same files can be merged with debugging off, for a release, and with debugging on. Where no
debug region hides a declaration, the release is contained in the debug build: it has the same
namespaces in the same order, and its buckets are those of the debug build with lines taken out.
The two need not agree in the order of imports or in the description of the plugin: an import or a
directive may stand in a debug region first and outside of it later.

A hidden declaration would send the lines behind it that a release keeps to the namespace declared
before.

* `DeclarationsShown`: no debug region hides a declaration.
* `Material.Within`: less material with the same names. `Material.within_ofPosition` is one line,
  `Material.within_ofLines` a file up to a line, and `Material.within_ofFiles` all files.
* `Bundle.mergeEach_release_within`: the bundles.
-/

namespace PluginMerge

variable {ls : List Text} {l : Text} {i : Nat}

/-- No declaration outside all braces lies in a debug region. -/
def DeclarationsShown (ls : List Text) : Prop :=
  ∀ i, i < ls.length → ∀ l ∈ ls[i]?, Line.isNamespace l = true → depthBefore ls i = 0 →
    ¬ InRegion ls i

instance (ls : List Text) : Decidable (DeclarationsShown ls) :=
  inferInstanceAs (Decidable (∀ i, i < ls.length → _))

/-! ## Positions -/

theorem not_filtered_debug (ls : List Text) (i : Nat) : ¬ Filtered true ls i := by
  rintro ⟨hDebug, -⟩
  cases hDebug

theorem AtTop.debug {debug : Bool} (h : AtTop debug ls i) : AtTop true ls i :=
  ⟨not_filtered_debug ls i, h.2⟩

theorem InBody.debug {debug : Bool} (h : InBody debug ls i) : InBody true ls i :=
  ⟨not_filtered_debug ls i, h.2⟩

theorem DeclarationsShown.declaredAt?_eq (h : DeclarationsShown ls) (hl : ls[i]? = some l) :
    declaredAt? false ls i = declaredAt? true ls i := by
  have hi : i < ls.length := (List.getElem?_eq_some_iff.mp hl).1
  by_cases hTop : AtTop true ls i
  · cases hNamespace : Line.isNamespace l with
    | true =>
      have hRegion := h i hi l hl hNamespace hTop.2
      have hRelease : AtTop false ls i := ⟨fun hFiltered => hRegion hFiltered.2, hTop.2⟩
      rw [declaredAt?_of_atTop hl hRelease, declaredAt?_of_atTop hl hTop]
    | false =>
      have hNone : ∀ debug, AtTop debug ls i → declaredAt? debug ls i = none := by
        intro debug hTop
        rw [declaredAt?_of_atTop hl hTop, hNamespace]
        rfl
      rw [hNone true hTop]
      by_cases hRelease : AtTop false ls i
      · exact hNone false hRelease
      · exact declaredAt?_of_not_atTop hRelease
  · have hRelease : ¬ AtTop false ls i := fun hRelease => hTop hRelease.debug
    rw [declaredAt?_of_not_atTop hRelease, declaredAt?_of_not_atTop hTop]

theorem DeclarationsShown.namesBefore_eq (h : DeclarationsShown ls) (hi : i ≤ ls.length) :
    namesBefore false ls i = namesBefore true ls i := by
  induction i with
  | zero => rfl
  | succ i ih =>
    have hl : ls[i]? = some ls[i] := List.getElem?_eq_getElem hi
    rw [namesBefore_succ, namesBefore_succ, ih (Nat.le_of_succ_le hi), h.declaredAt?_eq hl]

/-- What a position gives under a guard, it also gives under a weaker one. -/
theorem guarded_sublist {α : Type} {p q : Prop} [Decidable p] [Decidable q] (h : p → q)
    (xs : List α) : (if p then xs else []).Sublist (if q then xs else []) := by
  by_cases hp : p
  · rw [if_pos hp, if_pos (h hp)]
  · rw [if_neg hp]
    exact List.nil_sublist _

/-! ## Material -/

namespace Material

/-- One material has the names of the other, and of the rest a part in the same order. -/
structure Within (r d : Material) : Prop where
  names : r.names = d.names
  imports : r.imports.Sublist d.imports
  lines : r.lines.Sublist d.lines
  infos : r.infos.Sublist d.infos

theorem Within.empty : Within {} {} := ⟨rfl, .slnil, .slnil, .slnil⟩

theorem Within.append {r₁ r₂ d₁ d₂ : Material} (h₁ : r₁.Within d₁) (h₂ : r₂.Within d₂) :
    (r₁ ++ r₂).Within (d₁ ++ d₂) where
  names := by rw [names_append, names_append, h₁.names, h₂.names]
  imports := h₁.imports.append h₂.imports
  lines := h₁.lines.append h₂.lines
  infos := h₁.infos.append h₂.infos

theorem Within.linesFor {r d : Material} (h : r.Within d) (target : Option Text) :
    (r.linesFor target).Sublist (d.linesFor target) :=
  (h.lines.filter _).map _

variable (name version : Text)

/-- A release takes from each line what the debug build takes, or nothing, and sends it to the same
namespace. -/
theorem within_ofPosition (h : DeclarationsShown ls) (hi : i < ls.length) :
    (ofPosition name version false ls i).Within (ofPosition name version true ls i) := by
  have hl : ls[i]? = some ls[i] := List.getElem?_eq_getElem hi
  -- Where the lines go is the same in both builds, since the declarations are.
  have hNamespace : namespaceAt false ls i = namespaceAt true ls i :=
    congrArg List.getLast? (h.namesBefore_eq hi)
  refine ⟨congrArg Option.toList (h.declaredAt?_eq hl), ?_, ?_, ?_⟩
  · simp only [ofPosition, importAt?, apply_ite Option.toList]
    exact guarded_sublist AtTop.debug _
  · simp only [ofPosition, hNamespace]
    exact (guarded_sublist InBody.debug _).map _
  · simp only [ofPosition, infoAt?, apply_ite Option.toList]
    exact guarded_sublist InBody.debug _

theorem within_ofLines (h : DeclarationsShown ls) (hi : i ≤ ls.length) :
    (ofLines name version false ls i).Within (ofLines name version true ls i) := by
  induction i with
  | zero => exact Within.empty
  | succ i ih =>
    rw [ofLines_succ, ofLines_succ]
    exact (ih (Nat.le_of_succ_le hi)).append (within_ofPosition name version h hi)

theorem within_ofFiles {files : List SourceFile} (h : ∀ f ∈ files, DeclarationsShown f.lines) :
    (ofFiles name version false files).Within (ofFiles name version true files) := by
  induction files with
  | nil => exact Within.empty
  | cons f rest ih =>
    have hFile := within_ofLines name version (h f List.mem_cons_self) (Nat.le_refl f.lines.length)
    have hRest := ih fun g hg => h g (List.mem_cons_of_mem f hg)
    rw [ofFiles_cons, ofFiles_cons]
    exact hFile.append hRest

end Material

/-! ## Bundles -/

namespace Bundle

/-- One bundle lies in another with the same namespaces. -/
structure Within (r d : Bundle) : Prop where
  namespaces : r.namespaces = d.namespaces
  buckets : ∀ n lines, r.bucket? n = some lines →
    ∃ lines', d.bucket? n = some lines' ∧ lines.Sublist lines'
  imports : ∀ l ∈ r.imports, l ∈ d.imports
  droppedLines : r.droppedLines ≤ d.droppedLines
  locked : r.attribution.locked = true → d.attribution.locked = true

theorem locked_ofInfos (infos : List PluginInfo) :
    (Attribution.ofInfos infos).locked = true ↔ infos ≠ [] := by
  cases infos <;> simp [Attribution.ofInfos, Attribution.ofInfo]

/-- Less material with the same names makes a bundle that lies in the other. Imports are compared as
sets, since an import may come first in a region. -/
theorem within_ofMaterial (name version : Text) (files : Nat) {r d : Material} (h : r.Within d) :
    (ofMaterial name version false files r).Within (ofMaterial name version true files d) where
  namespaces := by rw [namespaces_ofMaterial, namespaces_ofMaterial, h.names]
  buckets := by
    intro n lines hLines
    rw [bucket?_ofMaterial] at hLines
    obtain ⟨hn, hSome⟩ := Option.ite_none_right_eq_some.mp hLines
    cases hSome
    refine ⟨d.linesFor (some n), ?_, h.linesFor (some n)⟩
    rw [bucket?_ofMaterial, if_pos (h.names ▸ hn)]
  imports := by
    intro l hl
    have hMem : l ∈ r.imports := List.mem_eraseDups.mp hl
    exact List.mem_eraseDups.mpr (h.imports.subset hMem)
  droppedLines := (h.linesFor none).length_le
  locked := by
    intro hLocked
    have hSome : r.infos ≠ [] := (locked_ofInfos r.infos).mp hLocked
    refine (locked_ofInfos d.infos).mpr fun hNone => hSome ?_
    exact List.sublist_nil.mp (hNone ▸ h.infos)

/-- **A release lies in the debug build.** If no debug region hides a declaration, files merged
with debugging off give a bundle that lies in the one they give with debugging on. -/
theorem mergeEach_release_within (name version : Text) {files : List SourceFile}
    (h : ∀ f ∈ files, DeclarationsShown f.lines) :
    (mergeEach { name, version, debug := false } files).value.Within
      (mergeEach { name, version, debug := true } files).value := by
  rw [value_mergeEach, value_mergeEach]
  exact within_ofMaterial name version files.length (Material.within_ofFiles name version h)

end Bundle

/-- A file whose debug regions hold an import that comes again later, a directive in front of
another one, a declaration between braces, and a line without a namespace. -/
def guardedFile : SourceFile where
  path := "Main.cs".toList
  lines := ["//OX.DEBUGSTART".toList, "using B;".toList, "class \x7b".toList, "int lost;".toList,
    "\x7d //OX.DEBUGEND".toList, "using A;".toList, "using B;".toList, "namespace N \x7b".toList,
    "//OX.DEBUGSTART //OX.INSERT(PluginInfo me site/1234 git)".toList,
    "namespace Inner".toList, "//OX.DEBUGEND".toList,
    "//OX.INSERT(PluginInfo you site/4321 git)".toList, "int x;".toList, "\x7d".toList]

theorem mergeEach_guardedFile :
    (∀ f ∈ [guardedFile], DeclarationsShown f.lines) ∧
      (Bundle.mergeEach { name := "P".toList, version := "1".toList } [guardedFile]).value.Within
        (Bundle.mergeEach { name := "P".toList, version := "1".toList, debug := true }
          [guardedFile]).value := by
  have hShown : ∀ f ∈ [guardedFile], DeclarationsShown f.lines := by decide +kernel
  exact ⟨hShown, Bundle.mergeEach_release_within "P".toList "1".toList hShown⟩

end PluginMerge
