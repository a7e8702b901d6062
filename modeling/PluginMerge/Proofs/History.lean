import PluginMerge.Proofs.Lookups
import PluginMerge.Proofs.Origin

/-!
# Histories of a bundle

Whatever is done to a bundle from its beginning on, it only grows. Each operation adds some material
to what the bundle is made of, and a bundle made of more material has the imports, the namespaces
and the buckets of the other one at the front of its own. It keeps its description once it has one.

* `Operation`, `Operation.apply`: what can be done to a bundle. `Operation.attempt?` is the same
  with every look-up checked.
* `Bundle.Grows`: one bundle continues another.
* `Operation.apply_ofMaterial`: an operation adds its material. `Operation.run_eq_ofMaterial` is
  a history.
* `Operation.run_history`: what holds along every history.
-/

namespace PluginMerge

/-- What can be done to a bundle. -/
inductive Operation where
  | addImport (l : Text)
  | register (name : Text)
  | setDebug (flag : Bool)
  | expand (c : Cursor) (l : Text)
  | mergeFile (f : SourceFile)

namespace Operation

def apply (b : Bundle) : Operation → Bundle
  | addImport l => b.addImport l
  | register name => b.addNamespace name
  | setDebug flag => { b with debug := flag }
  | expand c l => (b.expand c l).value.1
  | mergeFile f => (b.mergeFile f).value

/-- The bundle behind an operation, unless a look-up fails on the way. -/
def attempt? (b : Bundle) : Operation → Option Bundle
  | expand c l => (b.expand c l : Option (Bundle × Option Text)).map Prod.fst
  | mergeFile f => b.mergeFile f
  | op => some (op.apply b)

/-- The bundle behind some operations. -/
def run (b : Bundle) (ops : List Operation) : Bundle := ops.foldl apply b

/-- The bundle behind some operations, unless a look-up fails on the way. -/
def run? (b : Bundle) (ops : List Operation) : Option Bundle := ops.foldlM attempt? b

/-- No look-up fails in any operation. -/
theorem attempt?_eq (b : Bundle) (op : Operation) : op.attempt? b = some (op.apply b) := by
  cases op with
  | expand c l =>
    rw [attempt?, Bundle.expand_eq_some b c l]
    rfl
  | mergeFile f => exact Bundle.mergeFile_eq_some b f
  | _ => rfl

theorem run?_eq (b : Bundle) (ops : List Operation) : run? b ops = some (run b ops) := by
  induction ops generalizing b with
  | nil => rfl
  | cons op rest ih =>
    rw [run?, List.foldlM_cons, attempt?_eq]
    exact ih (op.apply b)

end Operation

/-! ## Growing -/

namespace Bundle

/-- One bundle continues another: lists only grow at their ends, counts do not fall, and a
description that was given stays. -/
structure Grows (a b : Bundle) : Prop where
  name : b.name = a.name
  version : b.version = a.version
  imports : a.imports <+: b.imports
  namespaces : a.namespaces <+: b.namespaces
  buckets : ∀ n lines, a.bucket? n = some lines →
    ∃ longer, b.bucket? n = some longer ∧ lines <+: longer
  attribution : a.attribution.locked = true → b.attribution = a.attribution
  filesMerged : a.filesMerged ≤ b.filesMerged
  droppedLines : a.droppedLines ≤ b.droppedLines

theorem eraseDups_isPrefix (xs ys : List Text) : xs.eraseDups <+: (xs ++ ys).eraseDups := by
  rw [List.eraseDups_append]
  exact List.prefix_append _ _

theorem grows_ofMaterial (name version : Text) (debug debug' : Bool) {files files' : Nat}
    (hFiles : files ≤ files') (m m' : Material) :
    (ofMaterial name version debug files m).Grows
      (ofMaterial name version debug' files' (m ++ m')) where
  name := rfl
  version := rfl
  imports := eraseDups_isPrefix m.imports m'.imports
  namespaces := by
    rw [namespaces_ofMaterial, namespaces_ofMaterial]
    exact eraseDups_isPrefix m.names m'.names
  buckets := by
    intro n lines hBucket
    rw [bucket?_ofMaterial] at hBucket
    split at hBucket
    · rename_i hn
      cases hBucket
      have hMore : n ∈ (m ++ m').names := List.mem_append_left _ hn
      refine ⟨_, (bucket?_ofMaterial n).trans (if_pos hMore), ?_⟩
      rw [Material.linesFor_append]
      exact List.prefix_append _ _
    · cases hBucket
  attribution := by
    intro hLocked
    change (Attribution.ofInfos m.infos).locked = true at hLocked
    change Attribution.ofInfos (m.infos ++ m'.infos) = Attribution.ofInfos m.infos
    cases hInfos : m.infos with
    | nil => rw [hInfos] at hLocked; cases hLocked
    | cons info rest => rfl
  filesMerged := hFiles
  droppedLines := by
    change (m.linesFor none).length ≤ ((m ++ m').linesFor none).length
    rw [Material.linesFor_append, List.length_append]
    exact Nat.le_add_right _ _

theorem addNamespace_ofMaterial {name version : Text} {debug : Bool} {files : Nat} {m : Material}
    (hm : m.Closed) (n : Text) :
    (ofMaterial name version debug files m).addNamespace n =
      ofMaterial name version debug files (m ++ { names := [n] }) := by
  rw [← value_declare_ofMaterial hm n, declare]
  split
  · rename_i hHas
    rw [addNamespace, if_pos hHas]
    rfl
  · rfl

end Bundle

/-! ## Operations by their material -/

namespace Operation

variable (name version : Text) (debug : Bool) (files : Nat) {m : Material}

/-- What an operation adds to the material of a bundle. -/
def material : Operation → Material
  | addImport l => { imports := [l] }
  | register n => { names := [n] }
  | setDebug _ => {}
  | expand _ l => { infos := (Directive.parse l).toOption.toList }
  | mergeFile f => .ofFile name version debug f

/-- The flag behind an operation. -/
def debugAfter : Operation → Bool
  | setDebug flag => flag
  | _ => debug

/-- The number of files behind an operation. -/
def filesAfter : Operation → Nat
  | mergeFile _ => files + 1
  | _ => files

/-- No operation brings lines for a namespace that it does not bring as well. -/
theorem closed_material (op : Operation) : (op.material name version debug).Closed := by
  cases op with
  | mergeFile f => exact Material.closed_ofFile name version debug f
  | _ =>
    intro x hx
    cases hx

/-- Each operation adds its material at the end, so a history is one long piece of material. -/
theorem apply_ofMaterial (hm : m.Closed) (op : Operation) :
    op.apply (.ofMaterial name version debug files m) =
      .ofMaterial name version (op.debugAfter debug) (op.filesAfter files)
        (m ++ op.material name version debug) := by
  cases op with
  | addImport l => exact Bundle.addImport_ofMaterial l
  | register n => exact Bundle.addNamespace_ofMaterial hm n
  | setDebug flag =>
    rw [material, Material.append_empty]
    rfl
  | expand c l =>
    rw [apply, material]
    cases hParse : Directive.parse l with
    | error reason =>
      have hNothing : m ++ ({ infos := [] } : Material) = m := Material.append_empty m
      rw [Bundle.value_expand_error hParse]
      exact (congrArg (Bundle.ofMaterial name version debug files) hNothing).symm
    | ok info =>
      rw [Bundle.value_expand_ok hParse]
      exact Bundle.describe_ofMaterial info
  | mergeFile f => exact Bundle.value_mergeFile name version debug files hm f

theorem le_filesAfter (op : Operation) : files ≤ op.filesAfter files := by
  cases op with
  | mergeFile f => exact Nat.le_succ files
  | _ => exact Nat.le_refl files

/-- The bundle behind a history is made of the material of its operations. The flag is that of the
beginning if no operation sets it. -/
theorem run_eq_ofMaterial (hm : m.Closed) (ops : List Operation) :
    ∃ debug' files' m', files ≤ files' ∧ m'.Closed ∧
      ((∀ flag, setDebug flag ∉ ops) → debug' = debug) ∧
      run (.ofMaterial name version debug files m) ops =
        .ofMaterial name version debug' files' (m ++ m') := by
  induction ops generalizing debug files m with
  | nil =>
    refine ⟨debug, files, {}, Nat.le_refl files, Material.closed_empty, fun _ => rfl, ?_⟩
    rw [Material.append_empty]
    rfl
  | cons op rest ih =>
    have hClosed := closed_material name version debug op
    obtain ⟨debug', files', m', hFiles, hm', hDebug, hRun⟩ :=
      ih (op.debugAfter debug) (op.filesAfter files) (hm.append hClosed)
    refine ⟨debug', files', op.material name version debug ++ m',
      (le_filesAfter files op).trans hFiles, hClosed.append hm', ?_, ?_⟩
    · intro hNone
      rw [hDebug fun flag hMem => hNone flag (List.mem_cons_of_mem op hMem)]
      cases op with
      | setDebug flag => exact absurd List.mem_cons_self (hNone flag)
      | _ => rfl
    · rw [← Material.append_assoc, ← hRun, ← apply_ofMaterial name version debug files hm op]
      rfl

/-! ## Histories -/

/-- **What holds along every history.** From a fresh bundle on, no look-up fails, imports and
namespaces are there once, and the bundle behind the first operations of a history is continued by
the one behind more of them. The flag changes only where an operation sets it. While a file is
merged, the namespace at the cursor has a bucket behind every line. -/
theorem run_history (name version : Text) (before after : List Operation) :
    let early := run { name, version } before
    let late := run { name, version } (before ++ after)
    run? { name, version } (before ++ after) = some late ∧
      late.imports.Nodup ∧ late.namespaces.Nodup ∧ early.Grows late ∧
      ((∀ flag, setDebug flag ∉ after) → late.debug = early.debug) ∧
      ∀ (f : SourceFile) (i : Nat),
        let behind := (late.mergeLines { path := f.path } (f.lines.take i)).value
        ∀ n, behind.2.current = some n → n ∈ behind.1.namespaces := by
  intro early late
  obtain ⟨debug, files, m, -, hm, -, hEarly⟩ :=
    run_eq_ofMaterial name version false 0 Material.closed_empty before
  obtain ⟨debug', files', m', hFiles, -, hDebug, hLate⟩ :=
    run_eq_ofMaterial name version debug files hm after
  rw [Material.empty_append] at hEarly
  have hEarly' : early = .ofMaterial name version debug files m := hEarly
  have hLate' : late = .ofMaterial name version debug' files' (m ++ m') := by
    rw [← hLate, ← hEarly']
    exact List.foldl_append
  refine ⟨run?_eq _ _, ?_, ?_, ?_, ?_, ?_⟩
  · rw [hLate']
    exact nodup_eraseDups _
  · rw [hLate', Bundle.namespaces_ofMaterial]
    exact nodup_eraseDups _
  · rw [hEarly', hLate']
    exact Bundle.grows_ofMaterial name version debug debug' hFiles m m'
  · intro hNone
    rw [hEarly', hLate']
    exact hDebug hNone
  · intro f i
    exact (Bundle.hasCurrent_fresh late f.path).mergeLines (f.lines.take i)

end Operation

end PluginMerge
