import PluginMerge.Proofs.Attribution
import PluginMerge.Proofs.Origin
import PluginMerge.Proofs.Release

/-!
# The order of the files

A merge takes its files in some order. Another order of the same files changes orders only: imports,
namespaces and lines come in another order, and each file's own lines stay together as they were.
The one thing that really depends on the order is the description of the plugin, which is the first
one given. If a single file gives one, not even that.

* `Material.Reorders`: the same material in another order.
* `Attribution.ofInfos_eq_of_unique`: the description when a single file gives one.
* `Bundle.linesOf_ofFiles`: the lines of a namespace, file by file.
* `mergeFiles_reordered`: whole merges.
-/

namespace PluginMerge

variable (name version : Text) {debug : Bool} {fs gs : List SourceFile}

/-! ## The same material in another order -/

structure Material.Reorders (m m' : Material) : Prop where
  names : m.names.Perm m'.names
  imports : m.imports.Perm m'.imports
  lines : m.lines.Perm m'.lines
  infos : m.infos.Perm m'.infos

theorem Material.reorders_ofFiles (debug : Bool) (h : fs.Perm gs) :
    (ofFiles name version debug fs).Reorders (ofFiles name version debug gs) where
  names := h.flatMap_right _
  imports := h.flatMap_right _
  lines := h.flatMap_right _
  infos := h.flatMap_right _

theorem Material.Reorders.linesFor {m m' : Material} (h : m.Reorders m') (target : Option Text) :
    (m.linesFor target).Perm (m'.linesFor target) :=
  (h.lines.filter _).map _

theorem eraseDups_perm {xs ys : List Text} (h : xs.Perm ys) : xs.eraseDups.Perm ys.eraseDups := by
  refine (List.perm_ext_iff_of_nodup (nodup_eraseDups xs) (nodup_eraseDups ys)).mpr fun x => ?_
  rw [List.mem_eraseDups, List.mem_eraseDups, h.mem_iff]

theorem Material.linesFor_ofFiles (debug : Bool) (files : List SourceFile) (target : Option Text) :
    (ofFiles name version debug files).linesFor target =
      files.flatMap fun f => (ofFile name version debug f).linesFor target := by
  induction files with
  | nil => rfl
  | cons f rest ih => rw [ofFiles_cons, linesFor_append, ih, List.flatMap_cons]

theorem debugFlag_perm (h : fs.Perm gs) : (debugFlag fs).value = (debugFlag gs).value := by
  rw [value_debugFlag, value_debugFlag, decide_eq_decide]
  unfold DebugOn
  simp only [h.mem_iff]

/-! ## The description -/

/-- Some line of the file describes the plugin. -/
def SourceFile.Describes (debug : Bool) (f : SourceFile) : Prop :=
  ∃ i info, Accepted debug f.lines i info

theorem SourceFile.describes_iff {f : SourceFile} :
    f.Describes debug ↔ (Material.ofFile name version debug f).infos ≠ [] := by
  rw [ne_eq, infos_ofFile_eq_nil_iff, Describes]
  push Not
  rfl

theorem exists_of_head?_flatMap {α β : Type} {f : α → List β} {xs : List α} {y : β}
    (h : (xs.flatMap f).head? = some y) : ∃ x ∈ xs, (f x).head? = some y := by
  rw [List.head?_flatMap] at h
  exact List.exists_of_findSome?_eq_some h

/-- If at most one file describes the plugin, its first description counts in every order. -/
theorem Attribution.ofInfos_eq_of_unique (h : fs.Perm gs)
    (hUnique : ∀ f ∈ fs, ∀ g ∈ fs, f.Describes debug → g.Describes debug → f = g) :
    ofInfos (Material.ofFiles name version debug fs).infos =
      ofInfos (Material.ofFiles name version debug gs).infos := by
  have hInfos := (Material.reorders_ofFiles name version debug h).infos
  cases hFirst : (Material.ofFiles name version debug fs).infos.head? with
  | none =>
    have hNil := List.head?_eq_none_iff.mp hFirst
    rw [hNil] at hInfos ⊢
    rw [List.nil_perm.mp hInfos]
  | some info =>
    cases hOther : (Material.ofFiles name version debug gs).infos.head? with
    | none =>
      rw [List.head?_eq_none_iff.mp hOther] at hInfos
      rw [List.perm_nil.mp hInfos] at hFirst
      cases hFirst
    | some other =>
      -- Both descriptions come first in the same file.
      obtain ⟨f, hf, hInfo⟩ := exists_of_head?_flatMap hFirst
      obtain ⟨g, hg, hOtherInfo⟩ := exists_of_head?_flatMap hOther
      have hDescribes {k : SourceFile} {x : PluginInfo}
          (hx : (Material.ofFile name version debug k).infos.head? = some x) :
          k.Describes debug := by
        rw [SourceFile.describes_iff name version]
        intro hNil
        rw [hNil] at hx
        cases hx
      have hSame := hUnique f hf g (h.mem_iff.mpr hg) (hDescribes hInfo) (hDescribes hOtherInfo)
      subst hSame
      rw [ofInfos, ofInfos, hFirst, hOther, ← hInfo, ← hOtherInfo]

/-! ## Bundles -/

namespace Bundle

/-- A bucket is the buckets of the single files in a row. -/
theorem linesOf_ofFiles (debug : Bool) (files : List SourceFile) (n : Text) :
    (ofFiles name version debug files).linesOf n =
      files.flatMap fun f => (mergeFile { name, version, debug } f).value.linesOf n := by
  have hAlone (f : SourceFile) : (mergeFile { name, version, debug } f).value.linesOf n =
      (Material.ofFile name version debug f).linesFor (some n) := by
    have hMerge := value_mergeFile name version debug 0 Material.closed_empty f
    rw [Material.empty_append] at hMerge
    exact (congrArg (fun b => b.linesOf n) hMerge).trans
      (linesOf_ofMaterial name version debug 1 (Material.closed_ofFile name version debug f) n)
  simp only [hAlone]
  rw [ofFiles, linesOf_ofMaterial _ _ _ _ (Material.closed_ofFiles name version debug files),
    Material.linesFor_ofFiles]

end Bundle

/-- **Only orders depend on the order of the files.** Merges of the same files in two orders agree
in everything but the orders of imports, of namespaces and of the lines of a namespace. In both, the
lines of a namespace are those of each file alone, file by file. The descriptions agree too if no
two files of the list give one. -/
theorem mergeFiles_reordered (name version : Text) {fs gs : List SourceFile} (h : fs.Perm gs) :
    let a := (mergeFiles name version fs).value
    let b := (mergeFiles name version gs).value
    let alone (f : SourceFile) := (Bundle.mergeFile { name, version, debug := a.debug } f).value
    a.debug = b.debug ∧ a.imports.Perm b.imports ∧ a.namespaces.Perm b.namespaces ∧
      (∀ n, (a.linesOf n).Perm (b.linesOf n) ∧
        a.linesOf n = fs.flatMap (fun f => (alone f).linesOf n) ∧
        b.linesOf n = gs.flatMap (fun f => (alone f).linesOf n)) ∧
      a.droppedLines = b.droppedLines ∧ a.filesMerged = b.filesMerged ∧
      a.attribution.locked = b.attribution.locked ∧
      ((∀ f ∈ fs, ∀ g ∈ fs, f.Describes a.debug → g.Describes a.debug → f = g) →
        a.attribution = b.attribution) := by
  intro a b alone
  have ha : a = Bundle.ofFiles name version (debugFlag fs).value fs :=
    value_mergeFiles name version fs
  have hb : b = Bundle.ofFiles name version (debugFlag fs).value gs := by
    rw [debugFlag_perm h]
    exact value_mergeFiles name version gs
  have hMaterial := Material.reorders_ofFiles name version (debugFlag fs).value h
  have hDebug : a.debug = (debugFlag fs).value := by
    rw [ha]
    rfl
  have hLines := Bundle.linesOf_ofFiles name version (debugFlag fs).value
  simp only [alone, hDebug]
  rw [ha, hb]
  refine ⟨rfl, eraseDups_perm hMaterial.imports, ?_, fun n => ⟨?_, hLines fs n, hLines gs n⟩,
    (hMaterial.linesFor none).length_eq, h.length_eq, ?_,
    Attribution.ofInfos_eq_of_unique name version h⟩
  · rw [Bundle.ofFiles, Bundle.ofFiles, Bundle.namespaces_ofMaterial, Bundle.namespaces_ofMaterial]
    exact eraseDups_perm hMaterial.names
  · rw [hLines, hLines]
    exact h.flatMap_right _
  · change (Attribution.ofInfos _).locked = (Attribution.ofInfos _).locked
    rw [Bool.eq_iff_iff, Bundle.locked_ofInfos, Bundle.locked_ofInfos, ← List.length_pos_iff,
      ← List.length_pos_iff, hMaterial.infos.length_eq]

/-! ## Two files that share a namespace -/

/-- A file with a line outside all namespaces, an import and a namespace that it leaves open. -/
def openEnded : SourceFile where
  path := "A.cs".toList
  lines := ["using System;".toList, "class Loose \x7b".toList, "int a;".toList, "\x7d".toList,
    "namespace N \x7b".toList, "int b;".toList, "int c;".toList]

/-- A file with the same import, and with a directive in the same namespace. -/
def described : SourceFile where
  path := "B.cs".toList
  lines := ["using System;".toList, "namespace N \x7b".toList,
    "//OX.INSERT(PluginInfo Bob u/5678 t)".toList, "\x7d".toList]

/-- The lines of the namespace come in another order. The line outside is dropped in both orders,
and the description is that of the one file that gives one. -/
theorem mergeFiles_reordered_shared :
    let a := (mergeFiles "P".toList "1".toList [openEnded, described]).value
    let b := (mergeFiles "P".toList "1".toList [described, openEnded]).value
    [openEnded, described].Perm [described, openEnded] ∧
      ¬ openEnded.Describes a.debug ∧
      (a.linesOf "N".toList).Perm (b.linesOf "N".toList) ∧
      a.linesOf "N".toList ≠ b.linesOf "N".toList ∧
      a.droppedLines = 1 ∧ b.droppedLines = 1 ∧
      a.attribution.author = "Bob".toList ∧ b.attribution = a.attribution := by
  intro a b
  have hPerm : [openEnded, described].Perm [described, openEnded] := .swap described openEnded []
  have hValues : a.debug = false ∧ a.linesOf "N".toList ≠ b.linesOf "N".toList ∧
      a.droppedLines = 1 ∧ a.attribution.author = "Bob".toList ∧
      (Material.ofFile "P".toList "1".toList false openEnded).infos = [] := by
    decide +kernel
  obtain ⟨hDebug, hOrder, hDropped, hAuthor, hInfos⟩ := hValues
  have hNone : ¬ openEnded.Describes a.debug := by
    rw [hDebug, SourceFile.describes_iff "P".toList "1".toList]
    exact not_not.mpr hInfos
  have hUnique : ∀ f ∈ [openEnded, described], ∀ g ∈ [openEnded, described],
      f.Describes a.debug → g.Describes a.debug → f = g := by
    have hOnly : ∀ f ∈ [openEnded, described], f.Describes a.debug → f = described := by
      intro f hf hDescribes
      rcases List.mem_cons.mp hf with rfl | hf
      · exact absurd hDescribes hNone
      · exact List.mem_singleton.mp hf
    intro f hf g hg hDescribes hOther
    rw [hOnly f hf hDescribes, hOnly g hg hOther]
  obtain ⟨-, -, -, hLines, hCount, -, -, hAttribution⟩ :=
    mergeFiles_reordered "P".toList "1".toList hPerm
  exact ⟨hPerm, hNone, (hLines "N".toList).1, hOrder, hDropped, hCount.symm.trans hDropped, hAuthor,
    (hAttribution hUnique).symm⟩

end PluginMerge
