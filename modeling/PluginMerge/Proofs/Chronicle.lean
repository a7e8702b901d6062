import PluginMerge.Proofs.Account
import PluginMerge.Proofs.Origin
import PluginMerge.Proofs.Partway

/-!
# The log tells the truth

Some events of a merge are decided by the position of a line alone: that it is left out, that it is
dropped, that it is replaced by an attribute. The log names exactly those lines, in order and by
their number. Others are decided by what the bundle holds, and for them the log accounts for the
bundle.

* `Reports`: which events about a topic the lines of a file bring about.
* `Reports.mergeLines_take`, `Reports.mergeEach`: the run.
* `mergeFiles_records`: all records of a merge, beside the bundle and the positions of the lines.
-/

namespace PluginMerge

/-! ## The log of one line -/

namespace Bundle

theorem log_addBodyLine (b : Bundle) (c : Cursor) (l : Text) :
    (b.addBodyLine c l).log = if c.current = none then [.lineDropped c.path c.line l] else [] := by
  rw [addBodyLine_eq]
  cases c.current <;> rfl

theorem log_declare (b : Bundle) (n : Text) :
    (b.declare n).log = if b.hasNamespace n then [] else [.namespaceAdded n] := by
  rw [declare_eq]
  split <;> rfl

/-- A directive that is carried out reports an earlier description first, then its insertion, and
last what happens to the inserted line. -/
theorem log_mergeBody_directive {b : Bundle} {c : Cursor} {l : Text} {info : PluginInfo}
    (hDirective : Line.isDirective l = true) (hParse : Directive.parse l = .ok info) :
    (b.mergeBody c l).log =
      (if b.attribution.locked then [.attributionKept b.attribution.author] else []) ++
        [.attributeInserted c.path c.line] ++
        ((b.describe info).addBodyLine c (b.infoAttribute (Directive.indent l) info)).log := by
  rw [mergeBody, if_pos hDirective, Logged.log_bind, expand_of_parse_ok hParse]

theorem log_mergeBody_refused {b : Bundle} {c : Cursor} {l : Text} {reason : Directive.Refusal}
    (hDirective : Line.isDirective l = true) (hParse : Directive.parse l = .error reason) :
    (b.mergeBody c l).log = [.directiveRefused l reason] := by
  rw [mergeBody, if_pos hDirective, Logged.log_bind, expand_of_parse_error hParse]
  rfl

theorem log_mergeBody_plain {b : Bundle} {c : Cursor} {l : Text}
    (hDirective : Line.isDirective l = false) :
    (b.mergeBody c l).log = (b.addBodyLine c l).log := by
  rw [mergeBody, hDirective]
  rfl

/-- The events about a topic that a line brings about, said by what the line contributes. -/
def eventsOf (b : Bundle) (c : Cursor) (l : Text) (r : Role) : Topic → List Event
  | .lineSkipped => if r = .skipped then [.lineSkipped c.path c.line] else []
  | .namespaceAdded =>
    ((Material.ofLine b.name b.version c.current l r).names.filter fun n =>
      !b.hasNamespace n).map .namespaceAdded
  | .directiveRefused =>
    match r, Line.isDirective l, Directive.parse l with
    | .body, true, .error reason => [.directiveRefused l reason]
    | _, _, _ => []
  | .attributionKept =>
    if b.attribution.locked then
      (Material.ofLine b.name b.version c.current l r).infos.map fun _ =>
        .attributionKept b.attribution.author
    else []
  | .attributeInserted =>
    (Material.ofLine b.name b.version c.current l r).infos.map fun _ =>
      .attributeInserted c.path c.line
  | .lineDropped =>
    ((Material.ofLine b.name b.version c.current l r).linesFor none).map
      (.lineDropped c.path c.line)
  | .parsing => []
  | .debugEnabled => []

/-- The events of a line between braces, topic by topic, are those that its contributions call for.
-/
theorem about_mergeBody (b : Bundle) (c : Cursor) (l : Text) (t : Topic) :
    about t (b.mergeBody c l).log = b.eventsOf c l .body t := by
  cases hDirective : Line.isDirective l with
  | false =>
    rw [log_mergeBody_plain hDirective, log_addBodyLine]
    cases hCurrent : c.current <;> cases t <;>
      simp [eventsOf, Material.ofLine, Line.output, Line.info?, hDirective, hCurrent, Event.topic?]
  | true =>
    cases hParse : Directive.parse l with
    | error reason =>
      rw [log_mergeBody_refused hDirective hParse]
      cases t <;> simp [eventsOf, Material.ofLine, Line.output, Line.info?, hDirective, hParse,
        Except.toOption, Event.topic?]
    | ok info =>
      rw [log_mergeBody_directive hDirective hParse, log_addBodyLine]
      cases hCurrent : c.current <;> cases hLocked : b.attribution.locked <;> cases t <;>
        simp [eventsOf, Material.ofLine, Line.output, Line.info?, hDirective, hParse, hCurrent,
          hLocked, Except.toOption, infoAttribute, Event.topic?]

/-- The events of a line can be read off its role and its contributions, one topic at a time. -/
theorem about_play (b : Bundle) (c : Cursor) (l : Text) (r : Role) (t : Topic) :
    about t (b.play c l r).log = b.eventsOf c l r t := by
  cases r with
  | skipped => cases t <;> simp [play, eventsOf, Material.ofLine, Event.topic?]
  | declaration n =>
    rw [play, log_declare]
    cases hHas : b.hasNamespace n <;> cases t <;>
      simp [eventsOf, Material.ofLine, hHas, Event.topic?]
  | importing => cases t <;> simp [play, eventsOf, Material.ofLine]
  | body => exact about_mergeBody b c l t
  | idle => cases t <;> simp [play, eventsOf, Material.ofLine]

end Bundle

/-! ## Positions -/

/-- What line `i` gives that no bucket receives. -/
def droppedAt (name version : Text) (debug : Bool) (ls : List Text) (i : Nat) : List Text :=
  if namespaceAt debug ls i = none then outputAt name version debug ls i else []

variable (name version : Text) (debug : Bool)

/-- Line `i` of a file brings about the events `F i` about a topic, whatever the bundle holds. -/
def Reports (f : SourceFile) (t : Topic) (F : Nat → List Event) : Prop :=
  ∀ (files : Nat) (m : Material) (i : Nat) (l : Text), f.lines[i]? = some l →
    about t ((Bundle.ofMaterial name version debug files m).play
      (cursorAt debug f.path f.lines i).next l
      ((cursorAt debug f.path f.lines i).next.role debug l)).log = F i

theorem reports_nothing (f : SourceFile) {t : Topic} (ht : t = .parsing ∨ t = .debugEnabled) :
    Reports name version debug f t fun _ => [] := by
  intro files m i l _
  rw [Bundle.about_play]
  rcases ht with rfl | rfl <;> rfl

theorem reports_lineSkipped (f : SourceFile) :
    Reports name version debug f .lineSkipped fun i =>
      if Filtered debug f.lines i then [.lineSkipped f.path (i + 1)] else [] := by
  intro files m i l hl
  have hRole : (cursorAt debug f.path f.lines i).next.role debug l = .skipped ↔
      Filtered debug f.lines i := by
    rw [Cursor.role_eq_skipped_iff, ← Bool.not_eq_true, retains_cursorAt debug f.path hl, not_not]
  rw [Bundle.about_play]
  simp only [Bundle.eventsOf, hRole]
  rfl

theorem reports_lineDropped (f : SourceFile) :
    Reports name version debug f .lineDropped fun i =>
      (droppedAt name version debug f.lines i).map (.lineDropped f.path (i + 1)) := by
  intro files m i l hl
  have hLine := Material.ofLine_cursorAt name version debug f.path hl
  have hDropped := Material.linesFor_ofPosition name version debug f.lines i none
  rw [Bundle.about_play]
  simp only [Bundle.eventsOf, Bundle.ofMaterial, hLine, hDropped]
  rfl

theorem reports_attributeInserted (f : SourceFile) :
    Reports name version debug f .attributeInserted fun i =>
      if (infoAt? debug f.lines i).isSome then [.attributeInserted f.path (i + 1)] else [] := by
  intro files m i l hl
  have hLine := Material.ofLine_cursorAt name version debug f.path hl
  rw [Bundle.about_play]
  simp only [Bundle.eventsOf, Bundle.ofMaterial, hLine, Material.ofPosition]
  cases infoAt? debug f.lines i <;> rfl

namespace Reports

variable {name version debug} {f : SourceFile} {t : Topic} {F : Nat → List Event} {m : Material}

/-- If the events of single lines are known position by position, so are those of the first lines of
a file. The bundle in front may hold anything. -/
theorem mergeLines_take (h : Reports name version debug f t F) (files : Nat) (hm : m.Closed)
    {i : Nat} (hi : i ≤ f.lines.length) :
    about t ((Bundle.ofMaterial name version debug files m).mergeLines { path := f.path }
      (f.lines.take i)).log = (List.range i).flatMap F := by
  induction i with
  | zero => rfl
  | succ i ih =>
    obtain ⟨l, hl⟩ : ∃ l, f.lines[i]? = some l := ⟨_, List.getElem?_eq_getElem hi⟩
    have hLine := h files (m ++ Material.ofLines name version debug f.lines i) i l hl
    have hCursor := cursor_mergeLines_take (Bundle.ofMaterial name version debug files m) f.path
      (Nat.le_of_succ_le hi)
    have hBundle := Bundle.bundle_mergeLines_take name version debug files hm f.path
      (Nat.le_of_succ_le hi)
    rw [Bundle.mergeLines_take_succ _ _ hl, Logged.log_bind, about_append,
      ih (Nat.le_of_succ_le hi), Bundle.log_mergeLine, hCursor, hBundle, List.range_succ,
      List.flatMap_append, List.flatMap_singleton]
    exact congrArg _ hLine

/-- The events of a file: the one of the file itself, then those of its positions. -/
theorem mergeFile (h : Reports name version debug f t F) (files : Nat) (hm : m.Closed) :
    about t ((Bundle.ofMaterial name version debug files m).mergeFile f).log =
      about t [.parsing f.path] ++ (List.range f.lines.length).flatMap F := by
  have hLines := h.mergeLines_take files hm (Nat.le_refl _)
  rw [List.take_length] at hLines
  rw [Bundle.mergeFile, Logged.log_bind, Logged.log_bind, Logged.log_pure, List.append_nil,
    about_append, hLines]
  rfl

/-- What every file reports by itself, one file after the other. -/
theorem mergeEach {F : SourceFile → Nat → List Event}
    (h : ∀ f, Reports name version debug f t (F f)) (files : Nat) (hm : m.Closed)
    (fs : List SourceFile) :
    about t ((Bundle.ofMaterial name version debug files m).mergeEach fs).log =
      fs.flatMap fun f =>
        about t [.parsing f.path] ++ (List.range f.lines.length).flatMap (F f) := by
  induction fs generalizing files m with
  | nil => rfl
  | cons f rest ih =>
    have hClosed := hm.append (Material.closed_ofFile name version debug f)
    rw [Bundle.mergeEach, Logged.log_bind, about_append, (h f).mergeFile files hm,
      Bundle.value_mergeFile name version debug files hm f, ih (files + 1) hClosed,
      List.flatMap_cons]

end Reports

/-! ## Whole merges -/

/-- The first file with a line that switches debugging on. -/
def FirstMarked (files : List SourceFile) (f : SourceFile) : Prop :=
  ∃ front back, files = front ++ f :: back ∧ (∃ l ∈ f.lines, Line.enablesDebug l = true) ∧
    ∀ g ∈ front, ∀ l ∈ g.lines, Line.enablesDebug l = false

/-- The file that is reported to switch debugging on is the first one with such a line. -/
theorem firstMarked_of_debugFile? {files : List SourceFile} {f : SourceFile}
    (h : debugFile? files = some f) : FirstMarked files f := by
  obtain ⟨hMark, front, back, hSplit, hFront⟩ := List.find?_eq_some_iff_append.mp h
  refine ⟨front, back, hSplit, List.any_eq_true.mp hMark, fun g hg l hl => ?_⟩
  have hNone := hFront g hg
  rw [Bool.not_eq_true', List.any_eq_false] at hNone
  exact Bool.eq_false_iff.mpr (hNone l hl)

theorem log_debugFlag (files : List SourceFile) :
    (debugFlag files).log = (debugFile? files).toList.map fun f => .debugEnabled f.path := by
  unfold debugFlag
  cases debugFile? files <;> rfl

theorem flatMap_ite_singleton {α β : Type} (p : α → Prop) [DecidablePred p] (g : α → β)
    (xs : List α) :
    (xs.flatMap fun x => if p x then [g x] else []) = (xs.filter fun x => p x).map g := by
  induction xs with
  | nil => rfl
  | cons x rest ih => by_cases h : p x <;> simp [h, ih]

section Merge

variable {name version} {files : List SourceFile}

theorem log_mergeFiles :
    (mergeFiles name version files).log =
      (debugFlag files).log ++
        (Bundle.mergeEach { name, version, debug := (debugFlag files).value } files).log :=
  rfl

/-- The events about a topic that lines bring about by their position. -/
theorem Reports.mergeFiles {t : Topic} {F : SourceFile → Nat → List Event}
    (h : ∀ f, Reports name version (debugFlag files).value f t (F f)) :
    about t (PluginMerge.mergeFiles name version files).log =
      about t ((debugFile? files).toList.map fun f => .debugEnabled f.path) ++
        files.flatMap fun f =>
          about t [.parsing f.path] ++ (List.range f.lines.length).flatMap (F f) := by
  have hEach := Reports.mergeEach h 0 Material.closed_empty files
  rw [log_mergeFiles, about_append, log_debugFlag]
  exact congrArg _ hEach

theorem about_parsing_mergeFiles :
    about .parsing (mergeFiles name version files).log = files.map fun f => .parsing f.path := by
  have hNone (xs : List Nat) : xs.flatMap (fun _ => ([] : List Event)) = [] := by simp
  rw [Reports.mergeFiles fun f => reports_nothing name version _ f (Or.inl rfl)]
  cases debugFile? files <;> simp [Event.topic?, hNone, List.map_eq_flatMap]

theorem about_debugEnabled_mergeFiles :
    about .debugEnabled (mergeFiles name version files).log =
      (debugFile? files).toList.map fun f => .debugEnabled f.path := by
  rw [Reports.mergeFiles fun f => reports_nothing name version _ f (Or.inr rfl)]
  cases debugFile? files <;> simp [Event.topic?]

theorem about_lineDropped_mergeFiles :
    about .lineDropped (mergeFiles name version files).log =
      files.flatMap fun f => (List.range f.lines.length).flatMap fun i =>
        (droppedAt name version (debugFlag files).value f.lines i).map
          (.lineDropped f.path (i + 1)) := by
  rw [Reports.mergeFiles fun f => reports_lineDropped name version _ f]
  cases debugFile? files <;> simp [Event.topic?]

theorem about_attributeInserted_mergeFiles :
    about .attributeInserted (mergeFiles name version files).log =
      files.flatMap fun f => ((List.range f.lines.length).filter fun i =>
        (infoAt? (debugFlag files).value f.lines i).isSome).map fun i =>
          .attributeInserted f.path (i + 1) := by
  rw [Reports.mergeFiles fun f => reports_attributeInserted name version _ f]
  cases debugFile? files <;> simp [Event.topic?, flatMap_ite_singleton]

theorem about_lineSkipped_mergeFiles :
    about .lineSkipped (mergeFiles name version files).log =
      files.flatMap fun f => ((List.range f.lines.length).filter fun i =>
        Filtered (debugFlag files).value f.lines i).map fun i => .lineSkipped f.path (i + 1) := by
  rw [Reports.mergeFiles fun f => reports_lineSkipped name version _ f]
  cases debugFile? files <;> simp [Event.topic?, flatMap_ite_singleton]

/-- The log of a whole merge accounts for the bundle from its beginning on. -/
theorem accounts_mergeFiles :
    Bundle.Accounts { name, version, debug := (debugFlag files).value }
      (mergeFiles name version files).log (mergeFiles name version files).value := by
  rw [log_mergeFiles, log_debugFlag]
  refine Bundle.Accounts.trans ?_ (Bundle.accounts_mergeEach _ files)
  cases debugFile? files with
  | none => exact Bundle.accounts_silent rfl rfl rfl
  | some f => exact Bundle.accounts_remark _ rfl (by decide)

end Merge

/-- The place of line `i` of a file as records name it. Lines are counted from one. -/
def SourceFile.place (f : SourceFile) (i : Nat) : Text :=
  f.path ++ ":".toList ++ Text.ofNat (i + 1)

/-- **The log tells the truth.** At the level `trace` the records of a merge name the files in
order, the namespaces of the bundle in order and once each, the first file that switches debugging
on, and every line that is dropped or left out, in order and by file and number. They name every
directive that is carried out, and all but the first of these came too late to describe the
plugin. -/
theorem mergeFiles_records (name version : Text) (files : List SourceFile) :
    let run := mergeFiles name version files
    let b := run.value
    let records := Event.records (.level .trace) run.log
    let enabled := wordings .info "Debug enabled (".toList records
    let added := wordings .debug "Added namespace ".toList records
    let dropped := wordings .warning "Dropping line outside any namespace (".toList records
    let inserted := wordings .info "Inserted PluginInfo (".toList records
    let kept := wordings .warning "PluginInfo already set".toList records
    let skipped := wordings .trace "[DEBUG-REGION] skip ".toList records
    wordings .debug "Parsing ".toList records = files.map (fun f => "Parsing ".toList ++ f.path) ∧
    (added = b.namespaces.map (fun n => "Added namespace ".toList ++ n) ∧ added.Nodup) ∧
    (b.debug = false ∧ enabled = [] ∨
      b.debug = true ∧ ∃ f, FirstMarked files f ∧
        enabled = ["Debug enabled (".toList ++ f.path ++ ")".toList]) ∧
    (dropped = files.flatMap (fun f => (List.range f.lines.length).flatMap fun i =>
        (droppedAt name version b.debug f.lines i).map fun l =>
          "Dropping line outside any namespace (".toList ++ f.place i ++ "): ".toList ++
            Text.quoted (Text.strip l)) ∧
      dropped.length = b.droppedLines) ∧
    inserted = files.flatMap (fun f =>
      ((List.range f.lines.length).filter fun i => (infoAt? b.debug f.lines i).isSome).map fun i =>
        "Inserted PluginInfo (".toList ++ f.place i ++ ")".toList) ∧
    kept.length = inserted.length - 1 ∧
    skipped = files.flatMap (fun f =>
      ((List.range f.lines.length).filter fun i => Filtered b.debug f.lines i).map fun i =>
        "[DEBUG-REGION] skip ".toList ++ f.place i) := by
  intro run b records enabled added dropped inserted kept skipped
  have hAccounts : Bundle.Accounts _ run.log b := accounts_mergeFiles
  have hWordings := wordings_records hAccounts.topics
  have hDebug : b.debug = (debugFlag files).value := by
    simp only [b, run, value_mergeFiles]
    rfl
  have hEnabled : enabled = (about .debugEnabled run.log).map Event.message :=
    hWordings .debugEnabled
  have hAdded : added = b.namespaces.map fun n => "Added namespace ".toList ++ n := by
    refine (hWordings .namespaceAdded).trans ?_
    rw [← hAccounts.namespaces.trans (List.nil_append _), List.map_map]
    rfl
  have hDropped : dropped = (about .lineDropped run.log).map Event.message := hWordings .lineDropped
  have hInserted : inserted = (about .attributeInserted run.log).map Event.message :=
    hWordings .attributeInserted
  have hKept : kept = (about .attributionKept run.log).map Event.message :=
    hWordings .attributionKept
  have hSkipped : skipped = (about .lineSkipped run.log).map Event.message := hWordings .lineSkipped
  refine ⟨?_, ⟨hAdded, ?_⟩, ?_, ⟨?_, ?_⟩, ?_, ?_, ?_⟩
  · refine (hWordings .parsing).trans ?_
    rw [about_parsing_mergeFiles, List.map_map]
    rfl
  · have hNodup : b.namespaces.Nodup := by
      simp only [b, run, value_mergeFiles]
      exact Bundle.nodup_namespaces_ofFiles
    rw [hAdded]
    exact hNodup.map fun _ _ hSame => List.append_cancel_left hSame
  · rw [hEnabled, about_debugEnabled_mergeFiles, hDebug, debugFlag]
    cases hFile : debugFile? files with
    | none => exact Or.inl ⟨rfl, rfl⟩
    | some f => exact Or.inr ⟨rfl, f, firstMarked_of_debugFile? hFile, rfl⟩
  · rw [hDropped, about_lineDropped_mergeFiles, hDebug]
    simp only [List.map_flatMap, List.map_map]
    rfl
  · have hCount := hAccounts.dropped
    rw [hDropped, List.length_map, hCount]
    exact (Nat.zero_add _).symm
  · rw [hInserted, about_attributeInserted_mergeFiles, hDebug]
    simp only [List.map_flatMap, List.map_map]
    rfl
  · rw [hKept, hInserted, List.length_map, List.length_map]
    exact hAccounts.length_kept rfl
  · rw [hSkipped, about_lineSkipped_mergeFiles, hDebug]
    simp only [List.map_flatMap, List.map_map]
    rfl

end PluginMerge
