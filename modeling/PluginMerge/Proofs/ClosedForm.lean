import PluginMerge.Proofs.Material
import PluginMerge.Proofs.Position

/-!
# The meaning of a merge

A merge runs through the files with a cursor. Its result can be said without a run: each line
contributes what its position in its own file asks for, and the bundle is made of the contributions
of all lines, in the order of the files and of the lines in them.

* `Material.ofLines`: what the first lines of a file contribute, by position.
* `Bundle.ofFiles`: the bundle made of the contributions of all files.
* `Bundle.bundle_mergeLines_take`: after so many lines of a file the bundle is made of what those
  lines contribute.
* `Bundle.value_mergeEach`: merging files from a fresh bundle gives `Bundle.ofFiles`.
* `mergeFiles_eq_ofFiles`: so does a merge, with debugging on iff some line switches it on.
-/

namespace PluginMerge

variable (name version : Text) {debug : Bool} {l : Text} {ls : List Text} {i : Nat}

/-! ## What a position contributes -/

/-- Line `i` as an import, if it is one that counts. -/
def importAt? (debug : Bool) (ls : List Text) (i : Nat) : Option Text :=
  if AtTop debug ls i then ls[i]?.filter fun l => !Line.isNamespace l && Line.isImport l else none

/-- The lines that line `i` gives to a bucket. -/
def outputAt (name version : Text) (debug : Bool) (ls : List Text) (i : Nat) : List Text :=
  if InBody debug ls i then ls[i]?.elim [] (Line.output name version) else []

/-- The description of the plugin that line `i` gives. -/
def infoAt? (debug : Bool) (ls : List Text) (i : Nat) : Option PluginInfo :=
  if InBody debug ls i then ls[i]?.bind Line.info? else none

theorem importAt?_of_not_atTop (h : ¬ AtTop debug ls i) : importAt? debug ls i = none := by
  rw [importAt?, if_neg h]

/-- Outside all braces a declaration is never an import, whatever it looks like. -/
theorem importAt?_of_atTop (hl : ls[i]? = some l) (h : AtTop debug ls i) :
    importAt? debug ls i = if Line.isNamespace l then none
      else if Line.isImport l then some l else none := by
  rw [importAt?, if_pos h, hl]
  cases hn : Line.isNamespace l <;> cases hi : Line.isImport l <;> simp [hn, hi]

theorem outputAt_of_not_inBody (h : ¬ InBody debug ls i) :
    outputAt name version debug ls i = [] := by
  rw [outputAt, if_neg h]

theorem outputAt_of_inBody (hl : ls[i]? = some l) (h : InBody debug ls i) :
    outputAt name version debug ls i = Line.output name version l := by
  rw [outputAt, if_pos h, hl, Option.elim_some]

theorem infoAt?_of_not_inBody (h : ¬ InBody debug ls i) : infoAt? debug ls i = none := by
  rw [infoAt?, if_neg h]

theorem infoAt?_of_inBody (hl : ls[i]? = some l) (h : InBody debug ls i) :
    infoAt? debug ls i = Line.info? l := by
  rw [infoAt?, if_pos h, hl, Option.bind_some]

namespace Material

/-- What line `i` of a file contributes. -/
def ofPosition (name version : Text) (debug : Bool) (ls : List Text) (i : Nat) : Material where
  names := (declaredAt? debug ls i).toList
  imports := (importAt? debug ls i).toList
  lines := (outputAt name version debug ls i).map fun x => (namespaceAt debug ls i, x)
  infos := (infoAt? debug ls i).toList

/-- What the first `i` lines of a file contribute. -/
def ofLines (name version : Text) (debug : Bool) (ls : List Text) (i : Nat) : Material where
  names := namesBefore debug ls i
  imports := (List.range i).filterMap (importAt? debug ls)
  lines := (List.range i).flatMap fun k =>
    (outputAt name version debug ls k).map fun x => (namespaceAt debug ls k, x)
  infos := (List.range i).filterMap (infoAt? debug ls)

def ofFile (name version : Text) (debug : Bool) (f : SourceFile) : Material :=
  ofLines name version debug f.lines f.lines.length

/-- What files contribute, one after the other. -/
def ofFiles (name version : Text) (debug : Bool) (files : List SourceFile) : Material where
  names := files.flatMap fun f => (ofFile name version debug f).names
  imports := files.flatMap fun f => (ofFile name version debug f).imports
  lines := files.flatMap fun f => (ofFile name version debug f).lines
  infos := files.flatMap fun f => (ofFile name version debug f).infos

variable (debug : Bool)

theorem ofFiles_cons (f : SourceFile) (files : List SourceFile) :
    ofFiles name version debug (f :: files) =
      ofFile name version debug f ++ ofFiles name version debug files := by
  ext1 <;> simp [ofFiles]

theorem ofFiles_append (fs gs : List SourceFile) :
    ofFiles name version debug (fs ++ gs) =
      ofFiles name version debug fs ++ ofFiles name version debug gs := by
  ext1 <;> simp [ofFiles]

/-- Lines go only to namespaces that were declared before them in the same file. -/
theorem closed_ofLines (ls : List Text) (i : Nat) :
    (ofLines name version debug ls i).Closed := by
  intro x hx declared hDeclared
  simp only [ofLines, List.mem_flatMap, List.mem_range, List.mem_map] at hx
  obtain ⟨k, hk, _, _, rfl⟩ := hx
  exact mem_namesBefore_of_namespaceAt hk hDeclared

theorem closed_ofFile (f : SourceFile) : (ofFile name version debug f).Closed :=
  closed_ofLines name version debug f.lines f.lines.length

/-- All lines of all files go to declared namespaces or nowhere. -/
theorem closed_ofFiles (files : List SourceFile) :
    (ofFiles name version debug files).Closed := by
  induction files with
  | nil => exact closed_empty
  | cons f rest ih =>
    rw [ofFiles_cons]
    exact (closed_ofFile name version debug f).append ih

theorem ofLines_succ (ls : List Text) (i : Nat) :
    ofLines name version debug ls (i + 1) =
      ofLines name version debug ls i ++ ofPosition name version debug ls i := by
  ext1
  · exact filterMap_range_succ _ i
  · exact filterMap_range_succ _ i
  · simp [ofLines, ofPosition, List.range_succ]
  · exact filterMap_range_succ _ i

/-- What the role of a line contributes is what its position asks for. -/
theorem ofLine_cursorAt (path : Text) (hl : ls[i]? = some l) :
    ofLine name version (cursorAt debug path ls i).next.current l
        ((cursorAt debug path ls i).next.role debug l) =
      ofPosition name version debug ls i := by
  have hCurrent : (cursorAt debug path ls i).next.current = (namesBefore debug ls i).getLast? := rfl
  unfold ofPosition
  rcases position_cases debug ls i with h | h | h | ⟨hf, hd, ha⟩
  · have hTop : ¬ AtTop debug ls i := fun hTop => hTop.1 h
    have hBody : ¬ InBody debug ls i := fun hBody => hBody.1 h
    simp [role_cursorAt_of_filtered path hl h, ofLine, declaredAt?_of_not_atTop hTop,
      importAt?_of_not_atTop hTop, outputAt_of_not_inBody name version hBody,
      infoAt?_of_not_inBody hBody]
  · have hBody : ¬ InBody debug ls i := fun hBody => hBody.2.1 h.2
    rw [role_cursorAt_of_atTop path hl h, declaredAt?_of_atTop hl h, importAt?_of_atTop hl h,
      outputAt_of_not_inBody name version hBody, infoAt?_of_not_inBody hBody]
    split_ifs <;> rfl
  · have hTop : ¬ AtTop debug ls i := fun hTop => h.2.1 hTop.2
    simp [role_cursorAt_of_inBody path hl h, ofLine, declaredAt?_of_not_atTop hTop,
      importAt?_of_not_atTop hTop, outputAt_of_inBody name version hl h, infoAt?_of_inBody hl h,
      namespaceAt_of_inBody h, hCurrent]
  · have hTop : ¬ AtTop debug ls i := fun hTop => hd hTop.2
    have hBody : ¬ InBody debug ls i := fun hBody => hBody.2.2 ha
    simp [role_cursorAt_of_closing path hl hf hd ha, ofLine, declaredAt?_of_not_atTop hTop,
      importAt?_of_not_atTop hTop, outputAt_of_not_inBody name version hBody,
      infoAt?_of_not_inBody hBody]

end Material

/-! ## Runs -/

namespace Bundle

/-- The bundle made of what files contribute. -/
def ofFiles (name version : Text) (debug : Bool) (files : List SourceFile) : Bundle :=
  ofMaterial name version debug files.length (Material.ofFiles name version debug files)

variable (debug : Bool) (files : Nat) {m : Material}

/-- After `i` lines of a file the bundle is made of what those lines contribute. -/
theorem bundle_mergeLines_take (hm : m.Closed) (path : Text) (hi : i ≤ ls.length) :
    ((ofMaterial name version debug files m).mergeLines { path } (ls.take i)).value.1 =
      ofMaterial name version debug files (m ++ Material.ofLines name version debug ls i) := by
  induction i with
  | zero =>
    have hEmpty : Material.ofLines name version debug ls 0 = {} := rfl
    rw [List.take_zero, hEmpty, Material.append_empty]
    rfl
  | succ i ih =>
    obtain ⟨l, hl⟩ : ∃ l, ls[i]? = some l := ⟨_, List.getElem?_eq_getElem hi⟩
    have hCursor := cursor_mergeLines_take (ofMaterial name version debug files m) path
      (Nat.le_of_succ_le hi)
    have hClosed := hm.append (Material.closed_ofLines name version debug ls i)
    have hPlay := value_play_ofMaterial name version debug files hClosed
      (cursorAt debug path ls i).next l ((cursorAt debug path ls i).next.role debug l)
    rw [Material.ofLine_cursorAt name version debug path hl, Material.append_assoc,
      ← Material.ofLines_succ] at hPlay
    rw [mergeLines_take_succ _ _ hl, Logged.value_bind, value_mergeLine, hCursor,
      ih (Nat.le_of_succ_le hi)]
    exact hPlay

/-- A merged file adds its contributions behind what the bundle holds. That its cursor starts afresh
is why they depend on the file alone. -/
theorem value_mergeFile (hm : m.Closed) (f : SourceFile) :
    ((ofMaterial name version debug files m).mergeFile f).value =
      ofMaterial name version debug (files + 1) (m ++ Material.ofFile name version debug f) := by
  have hRun := bundle_mergeLines_take name version debug files hm f.path
    (Nat.le_refl f.lines.length)
  rw [List.take_length] at hRun
  simp only [mergeFile, Logged.value_bind, Logged.value_pure, hRun]
  rfl

/-- Merging files one after the other adds their contributions in order. The bundle stays one made
of material, which is what makes the next file an instance of the same statement. -/
theorem value_mergeEach_ofMaterial (hm : m.Closed) (fs : List SourceFile) :
    ((ofMaterial name version debug files m).mergeEach fs).value =
      ofMaterial name version debug (files + fs.length)
        (m ++ Material.ofFiles name version debug fs) := by
  induction fs generalizing files m with
  | nil => simp [mergeEach, Material.ofFiles]
  | cons f rest ih =>
    have hClosed := hm.append (Material.closed_ofFile name version debug f)
    rw [mergeEach, Logged.value_bind, value_mergeFile name version debug files hm f,
      Material.ofFiles_cons, ← Material.append_assoc, List.length_cons, Nat.add_comm rest.length,
      ← Nat.add_assoc]
    exact ih (files + 1) hClosed

theorem value_mergeEach (fs : List SourceFile) :
    (mergeEach { name, version, debug } fs).value = ofFiles name version debug fs := by
  have h := value_mergeEach_ofMaterial name version debug 0 Material.closed_empty fs
  rw [Nat.zero_add, Material.empty_append] at h
  exact h

end Bundle

/-! ## Debugging -/

/-- Some line of some file switches debugging on. -/
def DebugOn (files : List SourceFile) : Prop :=
  ∃ f ∈ files, ∃ l ∈ f.lines, Line.enablesDebug l = true

instance (files : List SourceFile) : Decidable (DebugOn files) :=
  inferInstanceAs (Decidable (∃ f ∈ files, _))

theorem debugOn_iff {files : List SourceFile} : DebugOn files ↔ (debugFile? files).isSome := by
  simp [debugFile?, DebugOn]

/-- The search for the debug mark looks at every line of every file, at any depth and in debug
regions too. -/
theorem value_debugFlag (files : List SourceFile) :
    (debugFlag files).value = decide (DebugOn files) := by
  unfold debugFlag
  cases h : debugFile? files <;> simp [debugOn_iff, h]

theorem debugFlag_of_not_debugOn {files : List SourceFile} (h : ¬ DebugOn files) :
    debugFlag files = pure false := by
  rw [debugOn_iff, Option.not_isSome_iff_eq_none] at h
  rw [debugFlag, h]

theorem value_mergeFiles (files : List SourceFile) :
    (mergeFiles name version files).value =
      Bundle.ofFiles name version (debugFlag files).value files := by
  rw [mergeFiles, Logged.value_bind, Bundle.value_mergeEach]

/-- **The meaning of a merge.** The bundle of a merge is made of what each line contributes by its
position, with debugging on iff some line of some file switches it on. -/
theorem mergeFiles_eq_ofFiles (files : List SourceFile) :
    (mergeFiles name version files).value =
      Bundle.ofFiles name version (decide (DebugOn files)) files := by
  rw [mergeFiles, Logged.value_bind, value_debugFlag, Bundle.value_mergeEach]

end PluginMerge
