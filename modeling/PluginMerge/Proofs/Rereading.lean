import PluginMerge.Proofs.Leads
import PluginMerge.Proofs.Origin
import PluginMerge.Proofs.Output

/-!
# The merged file merges into itself

The merged file is a source file, and merging it gives the bundle it was made from. The header goes
through as comments, imports are met one after the other, and each block declares its namespace,
fills the bucket and closes. Only an empty bucket is changed: the merged file shows it as an empty
line, and the empty line is what comes back.

`Rereadable` lists what is needed of a bundle for this. What a merge guarantees of its own accord
is not on the list: that imports are import lines, that names are what declarations give, and that
each is there once (`Gathered`).

* `Bundle.leads_blockLines`: the block of a namespace.
* `Bundle.leads_renderedLines`: the whole merged file.
* `mergeFiles_render`: the merged file, written, read and merged again.
-/

namespace PluginMerge

/-! ## The merged file -/

/-- What is needed of a bundle so that its merged file can be merged again: the header has no line
breaks and no braces, imports and names are balanced, buckets stay between the braces of their
blocks, no debug region is opened, and no directive is left. -/
structure Rereadable (b : Bundle) (toolVersion buildDate : Text) : Prop where
  header : ∀ h ∈ b.header toolVersion buildDate,
    '\n' ∉ h ∧ '\r' ∉ h ∧ '{' ∉ h ∧ '}' ∉ h ∧ Line.startsRegion h = false
  imports : ∀ l ∈ b.imports, Line.braceDelta l = 0 ∧ Line.startsRegion l = false
  names : ∀ n ∈ b.namespaces, Line.braceDelta n = 0 ∧ Line.startsRegion n = false
  buckets : ∀ bucket ∈ b.buckets, StaysOpen bucket.2
  lines : ∀ bucket ∈ b.buckets, ∀ l ∈ bucket.2,
    Line.startsRegion l = false ∧ Line.isDirective l = false

namespace Bundle

/-- A bucket as it comes back from the merged file. -/
def shownBucket (bucket : Text × List Text) : Text × List Text := (bucket.1, shownLines bucket.2)

/-- The bundle behind the block of a namespace. -/
def addBlock (b : Bundle) (bucket : Text × List Text) : Bundle :=
  (shownLines bucket.2).foldl (addLine · bucket.1) (b.addNamespace bucket.1)

theorem staysOpen_shownLines {xs : List Text} (h : StaysOpen xs) : StaysOpen (shownLines xs) := by
  unfold shownLines
  split
  · decide
  · exact h

/-- Reading a written block back declares its namespace and takes its lines, and ends outside all
braces again. -/
theorem leads_blockLines {bucket : Text × List Text} (hName : Line.IsName bucket.1)
    (hBraces : Line.braceDelta bucket.1 = 0) (hShown : Line.startsRegion bucket.1 = false)
    (hOpen : StaysOpen bucket.2)
    (hLines : ∀ l ∈ bucket.2, Line.startsRegion l = false ∧ Line.isDirective l = false) :
    Leads Cursor.Outside (blockLines bucket) Cursor.Outside (addBlock · bucket) := by
  obtain ⟨hInside, hEnd⟩ := staysOpen_shownLines hOpen
  have hKept : ∀ l ∈ shownLines bucket.2,
      Line.startsRegion l = false ∧ Line.isDirective l = false := by
    intro l hl
    rcases mem_shownLines hl with rfl | hl
    · decide
    · exact hLines l hl
  have hFront := (leads_idle Line.idle_nil).append (leads_declaration hName hBraces hShown)
  have hBody := leads_bodies (n := bucket.1) hInside hKept
  rw [hEnd] at hBody
  exact (hFront.append hBody).append (leads_closing bucket.1)

theorem leads_blocks {buckets : List (Text × List Text)}
    (h : ∀ bucket ∈ buckets,
      Leads Cursor.Outside (blockLines bucket) Cursor.Outside (addBlock · bucket)) :
    Leads Cursor.Outside (buckets.flatMap blockLines) Cursor.Outside (buckets.foldl addBlock) := by
  induction buckets with
  | nil => exact leads_nil _
  | cons bucket rest ih =>
    have hRest := ih fun x hx => h x (List.mem_cons_of_mem bucket hx)
    rw [List.flatMap_cons]
    exact (h bucket List.mem_cons_self).append hRest

/-! ### What the blocks add up to -/

theorem foldl_addImport {b : Bundle} {ls : List Text} (h : (b.imports ++ ls).Nodup) :
    ls.foldl addImport b = { b with imports := b.imports ++ ls } := by
  induction ls generalizing b with
  | nil => simp
  | cons l rest ih =>
    have hNew : l ∉ b.imports := fun hMem =>
      (List.nodup_append.mp h).2.2 l hMem l List.mem_cons_self rfl
    have hStep : b.addImport l = { b with imports := b.imports ++ [l] } := by
      simp [addImport, hNew]
    rw [List.foldl_cons, hStep, ih (by simpa using h)]
    simp

theorem foldl_addLine {b : Bundle} {n : Text} {front : List (Text × List Text)}
    {ys : List Text} (hNew : n ∉ front.map Prod.fst) (hb : b.buckets = front ++ [(n, ys)])
    (xs : List Text) :
    xs.foldl (addLine · n) b = { b with buckets := front ++ [(n, ys ++ xs)] } := by
  -- The bucket stays the last one and grows, so it is general in the induction.
  induction xs generalizing b ys with
  | nil => rw [List.append_nil, ← hb, List.foldl_nil]
  | cons x rest ih =>
    have hFront : (front.map fun y => if y.1 = n then (y.1, y.2 ++ [x]) else y) = front := by
      have hSame : ∀ y ∈ front, (if y.1 = n then (y.1, y.2 ++ [x]) else y) = id y := by
        intro y hy
        have hOther : y.1 ≠ n := fun heq => hNew (heq ▸ List.mem_map_of_mem hy)
        exact if_neg hOther
      rw [List.map_congr_left hSame, List.map_id]
    have hStep : (b.addLine n x).buckets = front ++ [(n, ys ++ [x])] := by
      simp only [addLine, hb, List.map_append, hFront]
      simp
    rw [List.foldl_cons, ih hStep]
    simp [addLine]

theorem addBlock_eq {b : Bundle} {bucket : Text × List Text} (hNew : bucket.1 ∉ b.namespaces) :
    b.addBlock bucket = { b with buckets := b.buckets ++ [shownBucket bucket] } := by
  have hHas : b.hasNamespace bucket.1 = false := by simpa [hasNamespace] using hNew
  have hStart : b.addNamespace bucket.1 = { b with buckets := b.buckets ++ [(bucket.1, [])] } := by
    rw [addNamespace, hHas]
    rfl
  rw [addBlock, hStart, foldl_addLine hNew rfl]
  rfl

theorem foldl_addBlock {b : Bundle} {buckets : List (Text × List Text)}
    (h : (b.namespaces ++ buckets.map Prod.fst).Nodup) :
    buckets.foldl addBlock b = { b with buckets := b.buckets ++ buckets.map shownBucket } := by
  induction buckets generalizing b with
  | nil => simp
  | cons bucket rest ih =>
    have hNew : bucket.1 ∉ b.namespaces := fun hMem =>
      (List.nodup_append.mp h).2.2 bucket.1 hMem bucket.1 (by simp) rfl
    have hRest : (namespaces { b with buckets := b.buckets ++ [shownBucket bucket] } ++
        rest.map Prod.fst).Nodup := by
      simpa [namespaces, shownBucket] using h
    rw [List.foldl_cons, addBlock_eq hNew, ih hRest]
    simp

end Bundle

/-! ## What a merge guarantees -/

/-- There is no line break in the text. -/
def NoBreaks (s : Text) : Prop := '\n' ∉ s ∧ '\r' ∉ s

instance (s : Text) : Decidable (NoBreaks s) := inferInstanceAs (Decidable (_ ∧ _))

theorem NoBreaks.append {s t : Text} (hs : NoBreaks s) (ht : NoBreaks t) : NoBreaks (s ++ t) := by
  simp [NoBreaks, hs.1, hs.2, ht.1, ht.2]

theorem NoBreaks.of_subset {s t : Text} (ht : NoBreaks t) (h : ∀ c ∈ s, c ∈ t) : NoBreaks s :=
  ⟨fun hc => ht.1 (h _ hc), fun hc => ht.2 (h _ hc)⟩

/-- What holds of the imports, names and lines of a merge of files without line breaks inside their
lines. -/
structure Gathered (b : Bundle) : Prop where
  imports_nodup : b.imports.Nodup
  names_nodup : b.namespaces.Nodup
  imports : ∀ l ∈ b.imports, Line.topLevel l = .importing ∧ NoBreaks l
  names : ∀ n ∈ b.namespaces, Line.IsName n ∧ NoBreaks n
  lines : ∀ bucket ∈ b.buckets, ∀ l ∈ bucket.2, NoBreaks l

theorem Line.mem_of_mem_namespaceName {c : Char} {l : Text} (h : c ∈ Line.namespaceName l) :
    c ∈ l := by
  have hTrim : c ∈ Text.trim Line.isFrame l := List.mem_of_mem_drop h
  rw [Text.trim, List.mem_reverse] at hTrim
  have hBehind := List.mem_reverse.mp ((List.dropWhile_sublist _).subset hTrim)
  exact (List.dropWhile_sublist _).subset hBehind

theorem noBreaks_output {name version l x : Text} (hName : NoBreaks name)
    (hVersion : NoBreaks version) (hl : NoBreaks l) (hx : x ∈ Line.output name version l) :
    NoBreaks x := by
  have hFrame : NoBreaks Directive.attributeFrame := by decide
  exact ⟨Line.not_mem_output hl.1 hName.1 hVersion.1 hFrame.1 hx,
    Line.not_mem_output hl.2 hName.2 hVersion.2 hFrame.2 hx⟩

theorem gathered_ofFiles {name version : Text} {debug : Bool} {files : List SourceFile}
    (hName : NoBreaks name) (hVersion : NoBreaks version)
    (hFiles : ∀ f ∈ files, ∀ l ∈ f.lines, NoBreaks l) :
    Gathered (Bundle.ofFiles name version debug files) where
  imports_nodup := Bundle.nodup_imports_ofFiles
  names_nodup := Bundle.nodup_namespaces_ofFiles
  imports := by
    intro l hl
    obtain ⟨f, hf, hLine, hNamespace, hImport⟩ := Bundle.of_mem_imports_ofFiles hl
    refine ⟨?_, hFiles f hf l hLine⟩
    rw [Line.topLevel, hNamespace, hImport]
    rfl
  names := by
    intro n hn
    obtain ⟨f, hf, l, hl, -, rfl⟩ := Bundle.of_mem_namespaces_ofFiles hn
    exact ⟨Line.isName_namespaceName l,
      (hFiles f hf l hl).of_subset fun c => Line.mem_of_mem_namespaceName⟩
  lines := by
    intro bucket hBucket x hx
    obtain ⟨f, hf, l, hl, hOutput⟩ := Bundle.of_mem_buckets_ofFiles hBucket hx
    exact noBreaks_output hName hVersion (hFiles f hf l hl) hOutput

namespace Rereadable

variable {b : Bundle} {toolVersion buildDate : Text}

theorem noBreaks_header (h : Rereadable b toolVersion buildDate) :
    ∀ line ∈ b.header toolVersion buildDate, NoBreaks line := by
  intro line hLine
  obtain ⟨hFeed, hReturn, -⟩ := h.header line hLine
  exact ⟨hFeed, hReturn⟩

/-- The header shows the name in its first line and the version in its second. -/
theorem noBreaks_name_version (h : Rereadable b toolVersion buildDate) :
    NoBreaks b.name ∧ NoBreaks b.version := by
  have hTitle := h.noBreaks_header _ List.mem_cons_self
  have hInfo := h.noBreaks_header _ (List.mem_cons_of_mem _ List.mem_cons_self)
  refine ⟨hTitle.of_subset fun c hc => ?_, hInfo.of_subset fun c hc => ?_⟩
  · simp only [List.mem_append, hc, true_or]
  · simp only [List.mem_append, hc, true_or, or_true]

end Rereadable

/-! ## Reading and merging again -/

namespace Bundle

variable {b : Bundle} {toolVersion buildDate : Text}

/-- The lines of the merged file of a bundle. -/
def renderedLines (b : Bundle) (toolVersion buildDate : Text) : List Text :=
  b.headerParts toolVersion buildDate ++ b.bodyLines

theorem noBreaks_shownLines {xs : List Text} (h : ∀ x ∈ xs, NoBreaks x) :
    ∀ x ∈ shownLines xs, NoBreaks x := by
  intro x hx
  rcases mem_shownLines hx with rfl | hx
  · decide
  · exact h x hx

theorem noBreaks_border (header : List Text) : NoBreaks (border header) := by
  constructor <;>
    exact fun hc => absurd (List.eq_of_mem_replicate hc) (by decide)

/-- No rendered line holds a line end, so writing and splitting give the same lines. -/
theorem noBreaks_renderedLines (h : Rereadable b toolVersion buildDate) (hb : Gathered b) :
    ∀ l ∈ b.renderedLines toolVersion buildDate, NoBreaks l := by
  intro l hl
  simp only [renderedLines, headerParts, bodyLines, List.mem_append, List.mem_map,
    List.mem_flatMap, List.mem_singleton] at hl
  rcases hl with ((rfl | ⟨line, hLine, rfl⟩) | rfl) | (hl | hl) | ⟨bucket, hBucket, hl⟩
  · exact noBreaks_border _
  · exact NoBreaks.append (by decide) (h.noBreaks_header line hLine)
  · exact noBreaks_border _
  · simp only [List.mem_cons, List.not_mem_nil, or_false, or_self] at hl
    rw [hl]
    decide
  · exact noBreaks_shownLines (fun x hx => (hb.imports x hx).2) l hl
  · simp only [blockLines, List.mem_append, List.mem_cons, List.not_mem_nil, or_false] at hl
    rcases hl with ((rfl | rfl) | hl) | rfl
    · decide
    · have hName := (hb.names bucket.1 (List.mem_map_of_mem hBucket)).2
      exact NoBreaks.append (NoBreaks.append (by decide) hName) (by decide)
    · exact noBreaks_shownLines (hb.lines bucket hBucket) l hl
    · decide

/-- Reading a rendered bundle back collects its imports and then its buckets. -/
theorem leads_renderedLines (h : Rereadable b toolVersion buildDate) (hb : Gathered b) :
    Leads Cursor.Outside (b.renderedLines toolVersion buildDate) Cursor.Outside
      fun b' => b.buckets.foldl addBlock (b.imports.foldl addImport b') := by
  have hHeader : ∀ l ∈ b.headerParts toolVersion buildDate ++ [[], []], Line.Idle l := by
    intro l hl
    simp only [headerParts, List.mem_append, List.mem_map, List.mem_cons, List.not_mem_nil,
      or_false, or_self] at hl
    rcases hl with ((rfl | ⟨line, hLine, rfl⟩) | rfl) | rfl
    · exact Line.idle_border _
    · obtain ⟨hFeed, -, hOpening, hClosing, hShown⟩ := h.header line hLine
      refine Line.idle_comment hFeed ?_ hShown
      rw [Line.braceDelta, List.count_eq_zero.mpr hOpening, List.count_eq_zero.mpr hClosing]
      rfl
    · exact Line.idle_border _
    · exact Line.idle_nil
  -- Without imports there is an empty line in their place.
  have hImports : Leads Cursor.Outside (shownLines b.imports) Cursor.Outside
      (b.imports.foldl addImport) := by
    unfold shownLines
    split
    · rename_i hNone
      rw [hNone]
      exact leads_idle Line.idle_nil
    · exact leads_imports fun l hl => ⟨(hb.imports l hl).1, h.imports l hl⟩
  have hBlocks : Leads Cursor.Outside (b.buckets.flatMap blockLines) Cursor.Outside
      (b.buckets.foldl addBlock) := by
    refine leads_blocks fun bucket hBucket => ?_
    have hMem : bucket.1 ∈ b.namespaces := List.mem_map_of_mem hBucket
    obtain ⟨hBraces, hShown⟩ := h.names bucket.1 hMem
    exact leads_blockLines (hb.names bucket.1 hMem).1 hBraces hShown (h.buckets bucket hBucket)
      (h.lines bucket hBucket)
  have hLines : b.renderedLines toolVersion buildDate =
      (b.headerParts toolVersion buildDate ++ [[], []]) ++ shownLines b.imports ++
        b.buckets.flatMap blockLines := by
    simp only [renderedLines, bodyLines, List.append_assoc]
  rw [hLines]
  exact ((leads_idles hHeader).append hImports).append hBlocks

/-- The merged file, merged into a fresh bundle. -/
theorem value_mergeFile_renderedLines (h : Rereadable b toolVersion buildDate) (hb : Gathered b)
    (path name version : Text) (debug : Bool) :
    (mergeFile { name, version, debug } ⟨path, b.renderedLines toolVersion buildDate⟩).value =
      { name, version, debug, imports := b.imports, buckets := b.buckets.map shownBucket,
        filesMerged := 1 } := by
  obtain ⟨c, hRun, -⟩ := leads_renderedLines h hb { name, version, debug } { path } ⟨rfl, rfl⟩
  have hImports : b.imports.foldl addImport { name, version, debug } =
      { name, version, debug, imports := b.imports } := foldl_addImport hb.imports_nodup
  have hBuckets : b.buckets.foldl addBlock { name, version, debug, imports := b.imports } =
      { name, version, debug, imports := b.imports, buckets := b.buckets.map shownBucket } :=
    foldl_addBlock hb.names_nodup
  simp only [mergeFile, Logged.value_bind, Logged.value_pure, hRun, hImports, hBuckets]

/-- The octets of a rendered bundle are read as the lines it was rendered from. -/
theorem ofOctets_render (h : Rereadable b toolVersion buildDate) (hb : Gathered b)
    (path : Text) :
    SourceFile.ofOctets path (Octets.encode (b.render toolVersion buildDate)) =
      ⟨path, b.renderedLines toolVersion buildDate⟩ := by
  -- The first line is a border, so the text does not begin with a byte-order mark.
  have hFirst : b.renderedLines toolVersion buildDate =
      ('/' :: List.replicate (longest (b.header toolVersion buildDate) + 4) '/') ::
        (b.renderedLines toolVersion buildDate).tail := rfl
  have hMark : (unlines (b.renderedLines toolVersion buildDate)).head? ≠ some markCharacter := by
    rw [hFirst, unlines_cons, List.cons_append, List.head?_cons]
    decide
  have hRead := SourceFile.lines_ofOctets_unlines path hMark (noBreaks_renderedLines h hb)
  have hRender : b.render toolVersion buildDate = unlines (b.renderedLines toolVersion buildDate) :=
    render_eq_unlines b toolVersion buildDate
  have hPath : ∀ octets, SourceFile.ofOctets path octets =
      ⟨path, (SourceFile.ofOctets path octets).lines⟩ := fun _ => rfl
  rw [hRender, hPath, hRead]

/-- Empty buckets and empty lines look the same in the merged file. -/
theorem bodyLines_congr {b' : Bundle} (hImports : b'.imports = b.imports)
    (hBuckets : b'.buckets = b.buckets.map shownBucket) : b'.bodyLines = b.bodyLines := by
  have hBlock : ∀ bucket, blockLines (shownBucket bucket) = blockLines bucket := by
    intro bucket
    simp only [blockLines, shownBucket, shownLines_shownLines]
  simp only [bodyLines, hImports, hBuckets, List.flatMap_map, hBlock]

end Bundle

theorem value_mergeFiles_singleton (name version : Text) (file : SourceFile) :
    (mergeFiles name version [file]).value =
      (Bundle.mergeFile { name, version, debug := (debugFlag [file]).value } file).value := rfl

theorem gathered_mergeFiles {name version toolVersion buildDate : Text} {files : List SourceFile}
    (hFiles : ∀ f ∈ files, ∀ l ∈ f.lines, NoBreaks l)
    (h : Rereadable (mergeFiles name version files).value toolVersion buildDate) :
    Gathered (mergeFiles name version files).value := by
  obtain ⟨hName, hVersion⟩ := h.noBreaks_name_version
  rw [mergeFiles, Logged.value_bind, value_debugFlag, Bundle.value_mergeEach] at hName hVersion ⊢
  exact gathered_ofFiles hName hVersion hFiles

/-- **The merged file merges into itself.** Write the merged file of a merge as octets, read it and
merge it alone, under any name and version: imports and namespaces come back in their order, and
every bucket as it was, an empty one as an empty line; nothing is dropped. The merged file of the
second bundle differs from the first in the header only. -/
theorem mergeFiles_render (name version toolVersion buildDate : Text) {files : List SourceFile}
    (hFiles : ∀ f ∈ files, ∀ l ∈ f.lines, NoBreaks l)
    (h : Rereadable (mergeFiles name version files).value toolVersion buildDate)
    (path name' version' toolVersion' buildDate' : Text) :
    let b := (mergeFiles name version files).value
    let file := SourceFile.ofOctets path (Octets.encode (b.render toolVersion buildDate))
    let b' := (mergeFiles name' version' [file]).value
    b'.imports = b.imports ∧ b'.namespaces = b.namespaces ∧
      b'.buckets = b.buckets.map Bundle.shownBucket ∧ b'.droppedLines = 0 ∧
      ∃ rest, b.render toolVersion buildDate =
          unlines (b.headerParts toolVersion buildDate) ++ rest ∧
        b'.render toolVersion' buildDate' =
          unlines (b'.headerParts toolVersion' buildDate') ++ rest := by
  intro b file b'
  have hb : Gathered b := gathered_mergeFiles hFiles h
  have hAgain : b' =
      { name := name', version := version', debug := (debugFlag [file]).value,
        imports := b.imports, buckets := b.buckets.map Bundle.shownBucket, filesMerged := 1 } := by
    have hFile := Bundle.ofOctets_render h hb path
    have hMerge := Bundle.value_mergeFile_renderedLines h hb path name' version'
      (debugFlag [file]).value
    rw [← hFile, ← value_mergeFiles_singleton] at hMerge
    exact hMerge
  have hNames : b'.namespaces = b.namespaces := by
    rw [hAgain]
    simp [Bundle.namespaces, Bundle.shownBucket, Function.comp_def]
  have hBody : b'.bodyLines = b.bodyLines := by
    rw [hAgain]
    exact Bundle.bodyLines_congr rfl rfl
  refine ⟨by rw [hAgain], hNames, by rw [hAgain], by rw [hAgain], unlines b.bodyLines, ?_, ?_⟩
  · rw [Bundle.render_eq_unlines, unlines_append]
  · rw [Bundle.render_eq_unlines, unlines_append, hBody]

/-- An import, a block without a namespace, a namespace without lines, and one with a block, a
directive and a debug region. -/
def scattered : SourceFile where
  path := "Main.cs".toList
  lines := ["using System;".toList, "class Loose \x7b".toList, "int b;".toList, "\x7d".toList,
    "namespace Empty \x7b".toList, "\x7d".toList, "namespace N.M".toList, "\x7b".toList,
    "  //OX.INSERT(PluginInfo me site/1234 git)".toList, "class A \x7b".toList,
    "//OX.DEBUGSTART".toList, "Log();".toList, "//OX.DEBUGEND".toList, "\x7d".toList,
    "\x7d".toList]

/-- Two imports and one more block of the same namespace. -/
def continued : SourceFile where
  path := "More.cs".toList
  lines := ["using System.Linq;".toList, "using System;".toList, "namespace N.M \x7b".toList,
    "int c;".toList, "\x7d".toList]

/-- The bundle of the two files, with the line that belongs nowhere. -/
def scatteredBundle : Bundle where
  name := "P".toList
  version := "1".toList
  imports := ["using System;".toList, "using System.Linq;".toList]
  buckets := [("Empty".toList, []),
    ("N.M".toList, ["  [Info(\"P\", \"me\", \"1\", ResourceId = 1234)]".toList,
      "class A \x7b".toList, "\x7d".toList, "int c;".toList])]
  attribution := .ofInfo ⟨"me".toList, "site/1234".toList, "git".toList⟩
  filesMerged := 2
  droppedLines := 1

theorem mergeFiles_render_scattered :
    (∀ f ∈ [scattered, continued], ∀ l ∈ f.lines, NoBreaks l) ∧
    (mergeFiles "P".toList "1".toList [scattered, continued]).value = scatteredBundle ∧
    Rereadable scatteredBundle "0.1".toList "today".toList ∧
    ∃ b', (mergeFiles "Q".toList "2".toList [SourceFile.ofOctets "P.cs".toList
        (Octets.encode (scatteredBundle.render "0.1".toList "today".toList))]).value = b' ∧
      b'.imports = scatteredBundle.imports ∧
      b'.buckets.head? = some ("Empty".toList, [[]]) ∧
      b'.buckets.tail = scatteredBundle.buckets.tail ∧ b'.droppedLines = 0 := by
  have hFiles : ∀ f ∈ [scattered, continued], ∀ l ∈ f.lines, NoBreaks l := by decide +kernel
  have hValue : (mergeFiles "P".toList "1".toList [scattered, continued]).value =
      scatteredBundle := by decide +kernel
  have h : Rereadable scatteredBundle "0.1".toList "today".toList :=
    ⟨by decide +kernel, by decide +kernel, by decide +kernel, by decide +kernel, by decide +kernel⟩
  have hAgain := mergeFiles_render "P".toList "1".toList "0.1".toList "today".toList hFiles
    (hValue.symm ▸ h) "P.cs".toList "Q".toList "2".toList "0.2".toList "tomorrow".toList
  simp only [hValue] at hAgain
  obtain ⟨hImports, -, hBuckets, hDropped, -⟩ := hAgain
  refine ⟨hFiles, hValue, h, _, rfl, hImports, ?_, ?_, hDropped⟩
  · rw [hBuckets]
    rfl
  · rw [hBuckets]
    rfl

end PluginMerge
