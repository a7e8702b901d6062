import PluginMerge.Proofs.Step

/-!
# Bundles and what they are made of

A bundle forgets: it keeps imports and namespaces once, sorts lines into buckets, and remembers
the first description only. `Material` is what the lines of some files contribute before anything
of that happens, as four lists in the order of the lines. Material is put together by appending.

* `Bundle.ofMaterial`: the bundle made of some material.
* `Bundle.value_play_ofMaterial`: a line that plays its role in the bundle made of some material
  leaves the bundle made of that material and what the line contributes (`Material.ofLine`).

The second statement needs material that is `Closed`: no line goes to a namespace that is still to
be declared. A bundle has no bucket for such a line.
-/

namespace PluginMerge

/-! ## Lists without repetitions -/

theorem eraseDups_concat {α : Type} [BEq α] [LawfulBEq α] (xs : List α) (x : α) :
    (xs ++ [x]).eraseDups = if x ∈ xs then xs.eraseDups else xs.eraseDups ++ [x] := by
  rw [List.eraseDups_append]
  by_cases h : x ∈ xs <;> simp [List.removeAll, h, List.eraseDups_cons]

/-! ## What a line between braces contributes -/

/-- The description that a line between braces gives: that of its directive, if it has one that
can be carried out. -/
def Line.info? (l : Text) : Option PluginInfo :=
  if Line.isDirective l then (Directive.parse l).toOption else none

/-- What a line between braces is replaced by: a directive that can be carried out by its
attribute, any other directive by nothing, and all else by itself. -/
def Line.output (name version l : Text) : List Text :=
  if Line.isDirective l then
    match Directive.parse l with
    | .ok info =>
      [Directive.infoAttribute (Directive.indent l) name info.author version
        (Directive.resourceId info.pluginUrl)]
    | .error _ => []
  else [l]

/-! ## Material -/

/-- What lines contribute to a bundle, in order and with repetitions. -/
@[ext] structure Material where
  /-- The names that are declared. -/
  names : List Text := []
  imports : List Text := []
  /-- The lines between braces, each behind the namespace that it goes to. -/
  lines : List (Option Text × Text) := []
  infos : List PluginInfo := []
  deriving DecidableEq, Repr

namespace Material

variable {m₁ m₂ m : Material}

instance : Append Material where
  append m₁ m₂ :=
    { names := m₁.names ++ m₂.names
      imports := m₁.imports ++ m₂.imports
      lines := m₁.lines ++ m₂.lines
      infos := m₁.infos ++ m₂.infos }

@[simp] theorem names_append (m₁ m₂ : Material) : (m₁ ++ m₂).names = m₁.names ++ m₂.names := rfl

@[simp] theorem imports_append (m₁ m₂ : Material) :
    (m₁ ++ m₂).imports = m₁.imports ++ m₂.imports := rfl

@[simp] theorem lines_append (m₁ m₂ : Material) : (m₁ ++ m₂).lines = m₁.lines ++ m₂.lines := rfl

@[simp] theorem infos_append (m₁ m₂ : Material) : (m₁ ++ m₂).infos = m₁.infos ++ m₂.infos := rfl

theorem append_assoc (m₁ m₂ m : Material) : m₁ ++ m₂ ++ m = m₁ ++ (m₂ ++ m) := by
  ext1 <;> simp

@[simp] theorem append_empty (m : Material) : m ++ ({} : Material) = m := by
  ext1 <;> simp

@[simp] theorem empty_append (m : Material) : ({} : Material) ++ m = m := by
  ext1 <;> simp

/-- The lines that go to a namespace, or to none. -/
def linesFor (m : Material) (target : Option Text) : List Text :=
  (m.lines.filter fun x => x.1 = target).map Prod.snd

@[simp] theorem linesFor_append (m₁ m₂ : Material) (target : Option Text) :
    (m₁ ++ m₂).linesFor target = m₁.linesFor target ++ m₂.linesFor target := by
  simp [linesFor]

@[simp] theorem linesFor_nil (names imports : List Text) (infos : List PluginInfo)
    (target : Option Text) : linesFor ⟨names, imports, [], infos⟩ target = [] := rfl

@[simp] theorem linesFor_singleton (names imports : List Text) (infos : List PluginInfo)
    (current target : Option Text) (l : Text) :
    linesFor ⟨names, imports, [(current, l)], infos⟩ target =
      if current = target then [l] else [] := by
  by_cases h : current = target <;> simp [linesFor, h]

theorem linesFor_map (names imports : List Text) (infos : List PluginInfo)
    (current target : Option Text) (xs : List Text) :
    linesFor ⟨names, imports, xs.map fun x => (current, x), infos⟩ target =
      if current = target then xs else [] := by
  by_cases h : current = target <;> simp [linesFor, List.filter_map, Function.comp_def, h]

/-- Every line goes to a namespace that is declared, or to none. -/
def Closed (m : Material) : Prop := ∀ x ∈ m.lines, ∀ name ∈ x.1, name ∈ m.names

theorem closed_empty : Closed {} := by
  intro x hx
  cases hx

theorem Closed.append (h₁ : m₁.Closed) (h₂ : m₂.Closed) : (m₁ ++ m₂).Closed := by
  intro x hx name hName
  rw [names_append, List.mem_append]
  rcases List.mem_append.mp hx with hx | hx
  · exact Or.inl (h₁ x hx name hName)
  · exact Or.inr (h₂ x hx name hName)

theorem Closed.linesFor_eq_nil (h : m.Closed) {name : Text} (hName : name ∉ m.names) :
    m.linesFor (some name) = [] := by
  rw [linesFor, List.map_eq_nil_iff, List.filter_eq_nil_iff]
  intro x hx hTarget
  exact hName (h x hx name (by simpa using hTarget))

/-- What a line contributes that plays the given role. -/
def ofLine (name version : Text) (current : Option Text) (l : Text) : Role → Material
  | .skipped => {}
  | .declaration declared => { names := [declared] }
  | .importing => { imports := [l] }
  | .body =>
    { lines := (Line.output name version l).map fun x => (current, x)
      infos := (Line.info? l).toList }
  | .idle => {}

end Material

/-! ## The bundle made of some material -/

/-- The first description of some is the one that holds. -/
def Attribution.ofInfos (infos : List PluginInfo) : Attribution :=
  infos.head?.elim {} Attribution.ofInfo

namespace Bundle

/-- The bundle made of some material out of so many files. -/
def ofMaterial (name version : Text) (debug : Bool) (files : Nat) (m : Material) : Bundle where
  name := name
  version := version
  debug := debug
  imports := m.imports.eraseDups
  buckets := m.names.eraseDups.map fun n => (n, m.linesFor (some n))
  attribution := .ofInfos m.infos
  filesMerged := files
  droppedLines := (m.linesFor none).length

variable {name version : Text} {debug : Bool} {files : Nat} {m : Material}

theorem namespaces_ofMaterial :
    (ofMaterial name version debug files m).namespaces = m.names.eraseDups := by
  simp [namespaces, ofMaterial, Function.comp_def]

theorem hasNamespace_ofMaterial (n : Text) :
    (ofMaterial name version debug files m).hasNamespace n = true ↔ n ∈ m.names := by
  simp [hasNamespace, namespaces_ofMaterial]

/-- The lines of a namespace; none if there is no bucket. -/
def linesOf (b : Bundle) (name : Text) : List Text := (b.bucket? name).getD []

theorem lookup_map_pair (f : Text → List Text) (ns : List Text) (n : Text) :
    (ns.map fun n => (n, f n)).lookup n = if n ∈ ns then some (f n) else none := by
  induction ns with
  | nil => rfl
  | cons x rest ih =>
    rw [List.map_cons, List.lookup_cons]
    by_cases hx : n = x
    · simp [hx]
    · have hBeq : (n == x) = false := by simpa using hx
      simp [hBeq, hx, ih]

/-- A bucket holds all lines for its namespace, wherever in the material they come. -/
theorem bucket?_ofMaterial (n : Text) :
    (ofMaterial name version debug files m).bucket? n =
      if n ∈ m.names then some (m.linesFor (some n)) else none := by
  have hLookup := lookup_map_pair (fun n => m.linesFor (some n)) m.names.eraseDups n
  simp only [List.mem_eraseDups] at hLookup
  exact hLookup

/-- In a closed material the lines for a namespace are those of its bucket, declared or not. -/
theorem linesOf_ofMaterial (name version : Text) (debug : Bool) (files : Nat) (hm : m.Closed)
    (n : Text) :
    (ofMaterial name version debug files m).linesOf n = m.linesFor (some n) := by
  rw [linesOf, bucket?_ofMaterial]
  by_cases hn : n ∈ m.names
  · simp [hn]
  · simp [hn, hm.linesFor_eq_nil hn]

theorem addImport_ofMaterial (l : Text) :
    (ofMaterial name version debug files m).addImport l =
      ofMaterial name version debug files (m ++ { imports := [l] }) := by
  have hDups := eraseDups_concat m.imports l
  by_cases h : l ∈ m.imports <;> simp [addImport, ofMaterial, hDups, h]

/-- A declaration adds its name. A repeated one changes nothing, since names count once. -/
theorem value_declare_ofMaterial (hm : m.Closed) (n : Text) :
    ((ofMaterial name version debug files m).declare n).value =
      ofMaterial name version debug files (m ++ { names := [n] }) := by
  have hDups := eraseDups_concat m.names n
  have hHas : (ofMaterial name version debug files m).hasNamespace n = true ↔ n ∈ m.names :=
    hasNamespace_ofMaterial n
  by_cases h : n ∈ m.names
  · rw [declare_eq, if_pos (hHas.mpr h)]
    simp [ofMaterial, hDups, h]
  · -- The new bucket is empty because no line has gone to an undeclared namespace.
    have hEmpty := hm.linesFor_eq_nil h
    rw [declare_eq, addNamespace, if_neg (mt hHas.mp h), if_neg (mt hHas.mp h)]
    simp [ofMaterial, hDups, h, hEmpty]

/-- A line goes behind the lines of the current namespace, or is counted as dropped if there is
none. -/
theorem value_addBodyLine_ofMaterial (c : Cursor) (l : Text) :
    ((ofMaterial name version debug files m).addBodyLine c l).value =
      ofMaterial name version debug files (m ++ { lines := [(c.current, l)] }) := by
  rw [addBodyLine_eq]
  cases hc : c.current with
  | none => simp [ofMaterial, dropLine]
  | some target =>
    have hBucket : ∀ n ∈ m.names.eraseDups,
        (if n = target then (n, m.linesFor (some n) ++ [l]) else (n, m.linesFor (some n))) =
          (n, m.linesFor (some n) ++ if some target = some n then [l] else []) := by
      intro n _
      by_cases hn : n = target
      · simp [hn]
      · simp [hn, Ne.symm hn]
    simpa [ofMaterial, addLine, Function.comp_def] using hBucket

/-- A description is one more in the list, of which the first counts. -/
theorem describe_ofMaterial (info : PluginInfo) :
    (ofMaterial name version debug files m).describe info =
      ofMaterial name version debug files (m ++ { infos := [info] }) := by
  cases h : m.infos <;>
    simp [describe, ofMaterial, Attribution.ofInfos, Attribution.ofInfo, h]

/-- A line between braces adds to the material its output, behind the current namespace, and the
description it gives. -/
theorem value_mergeBody_ofMaterial (c : Cursor) (l : Text) :
    ((ofMaterial name version debug files m).mergeBody c l).value =
      ofMaterial name version debug files
        (m ++ Material.ofLine name version c.current l .body) := by
  rw [value_mergeBody]
  by_cases hDirective : Line.isDirective l = true
  · rw [if_pos hDirective]
    cases hParse : Directive.parse l with
    | ok info =>
      simp only [describe_ofMaterial, value_addBodyLine_ofMaterial, Material.append_assoc,
        Material.ofLine, Line.output, Line.info?, hDirective, hParse, Except.toOption,
        if_true]
      rfl
    | error reason =>
      simp [Material.ofLine, Line.output, Line.info?, hDirective, hParse, Except.toOption]
  · rw [if_neg hDirective, value_addBodyLine_ofMaterial]
    simp [Material.ofLine, Line.output, Line.info?, hDirective]

/-- Whatever a line does to a bundle, it adds to the material what the line contributes. -/
theorem value_play_ofMaterial (name version : Text) (debug : Bool) (files : Nat) (hm : m.Closed)
    (c : Cursor) (l : Text) (r : Role) :
    ((ofMaterial name version debug files m).play c l r).value =
      ofMaterial name version debug files (m ++ Material.ofLine name version c.current l r) := by
  cases r with
  | skipped => simp [play, Material.ofLine]
  | declaration n => exact value_declare_ofMaterial hm n
  | importing => exact addImport_ofMaterial l
  | body => exact value_mergeBody_ofMaterial c l
  | idle => simp [play, Material.ofLine]

end Bundle

end PluginMerge
