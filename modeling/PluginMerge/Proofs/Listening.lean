import PluginMerge.Build

/-!
# Runs that report to a logger

A logger with a level sees the events of a run one by one, while they happen, and keeps those of its
level and above. The steps of the program are written for every monad that can report events, so
they run with a logger as their state (`StateM Logger`), where each report meets the level at once.

Such a run is the run with a list of all events, listened to: the text of each function is made of
pure values, reports, look-ups and steps in a row, and `Logged.listen` carries each of these over.

* `Logger.Covers`: one logger has kept all that another one has kept. Every event preserves this
  (`Logger.Covers.take`), and so does every run (`Logger.Covers.foldl_take`).
* `Logged.listen`: a run as a change of a logger. `Bundle.listen_mergeLine`, `listen_mergeFiles` and
  `Disk.listen_build`: merging and building with a logger.
* `Logged.run_listen_of_le`: a run with two loggers.
-/

namespace PluginMerge

/-! ## Loggers -/

/-- A logger with a level on the numeric scale, and the records it has let through. -/
structure Logger where
  floor : Int
  kept : List Event := []
  deriving DecidableEq, Repr

namespace Logger

variable {low high : Logger}

/-- Whether a logger lets an event through. -/
def lets (g : Logger) (e : Event) : Bool := decide (g.floor ≤ e.level.rank)

/-- The logger after an event. -/
def take (g : Logger) (e : Event) : Logger :=
  if g.lets e then { g with kept := g.kept ++ [e] } else g

/-- A new logger with the given verbosity. -/
def ofThreshold (t : Threshold) : Logger := { floor := t.effective.rank }

@[simp] theorem floor_take (g : Logger) (e : Event) : (g.take e).floor = g.floor := by
  unfold take
  split <;> rfl

@[simp] theorem lets_take (g : Logger) (e : Event) : (g.take e).lets = g.lets := by
  funext e'
  simp only [lets, floor_take]

@[simp] theorem kept_take (g : Logger) (e : Event) :
    (g.take e).kept = g.kept ++ [e].filter g.lets := by
  unfold take
  split <;> simp [*]

theorem foldl_take (g : Logger) (log : List Event) :
    log.foldl take g = { g with kept := g.kept ++ log.filter g.lets } := by
  induction log generalizing g with
  | nil => simp
  | cons e rest ih =>
    rw [List.foldl_cons, ih, lets_take, floor_take, kept_take, List.append_assoc,
      ← List.filter_append, List.singleton_append]

theorem lets_foldl_take (g : Logger) (log : List Event) : (log.foldl take g).lets = g.lets := by
  rw [foldl_take]
  rfl

theorem lets_ofThreshold (t : Threshold) :
    (ofThreshold t).lets = fun e => t.passes e.level := by
  funext e
  simp [lets, ofThreshold, Threshold.passes]

theorem kept_ofThreshold (t : Threshold) (log : List Event) :
    (log.foldl take (ofThreshold t)).kept = Event.shown t log := by
  rw [foldl_take, lets_ofThreshold]
  rfl

/-- The first logger has the lower level, and the second one has kept the records that the first one
has kept, less those below its own level. -/
structure Covers (low high : Logger) : Prop where
  floor_le : low.floor ≤ high.floor
  kept_eq : high.kept = low.kept.filter high.lets

namespace Covers

theorem of_le {a b : Int} (h : a ≤ b) : Covers ⟨a, []⟩ ⟨b, []⟩ := ⟨h, rfl⟩

theorem lets_of_lets (h : Covers low high) {e : Event} (hLets : high.lets e = true) :
    low.lets e = true := by
  have hLevel : high.floor ≤ e.level.rank := of_decide_eq_true hLets
  exact decide_eq_true (Int.le_trans h.floor_le hLevel)

theorem take (h : Covers low high) (e : Event) : Covers (low.take e) (high.take e) := by
  -- What passes the higher level passes the lower one, so the second filter decides alone.
  have hRecord : ([e].filter low.lets).filter high.lets = [e].filter high.lets := by
    rw [List.filter_filter]
    refine List.filter_congr fun e' _ => ?_
    cases hLets : high.lets e' with
    | true => rw [h.lets_of_lets hLets, Bool.and_self]
    | false => rw [Bool.false_and]
  refine ⟨?_, ?_⟩
  · rw [floor_take, floor_take]
    exact h.floor_le
  · rw [lets_take, kept_take, kept_take, List.filter_append, hRecord, ← h.kept_eq]

theorem foldl_take (h : Covers low high) (log : List Event) :
    Covers (log.foldl Logger.take low) (log.foldl Logger.take high) := by
  induction log generalizing low high with
  | nil => exact h
  | cons e rest ih => exact ih (h.take e)

end Covers

end Logger

/-! ## Runs -/

/-- A report goes to the logger. -/
instance : Journal (StateM Logger) where
  report e := modify fun g => g.take e

instance : LookUps (StateM Logger) where
  lookUp found instead := pure (found.getD instead)

theorem lookUp_eq_pure {α : Type} (found : Option α) (instead : α) :
    (lookUp found instead : StateM Logger α) = pure (found.getD instead) := rfl

namespace Logged

variable {α β : Type}

/-- The run as a change of a logger, which takes the events in the order in which they happen. -/
def listen (x : Logged α) : StateM Logger α := fun g => (x.value, x.log.foldl Logger.take g)

theorem listen_pure (a : α) : (pure a : Logged α).listen = pure a := rfl

theorem listen_bind (x : Logged α) (f : α → Logged β) :
    (x >>= f).listen = x.listen >>= fun a => (f a).listen := by
  funext g
  simp only [listen, value_bind, log_bind, List.foldl_append]
  rfl

theorem listen_report (e : Event) : (report e).listen = report e := rfl

theorem listen_lookUp (found : Option α) (instead : α) :
    (lookUp found instead : Logged α).listen = lookUp found instead := rfl

theorem listen_ite (p : Prop) [Decidable p] (x y : Logged α) :
    (if p then x else y).listen = if p then x.listen else y.listen :=
  apply_ite listen p x y

/-- With a logger of a higher level a run has the same result, and the logger keeps the records that
a logger of a lower level keeps, less those below its own level. -/
theorem run_listen_of_le {a b : Int} (h : a ≤ b) (x : Logged α) :
    (x.listen.run ⟨b, []⟩).1 = (x.listen.run ⟨a, []⟩).1 ∧
      (x.listen.run ⟨b, []⟩).2.kept =
        (x.listen.run ⟨a, []⟩).2.kept.filter fun e => decide (b ≤ e.level.rank) := by
  have hCovers := (Logger.Covers.of_le h).foldl_take x.log
  have hKept := hCovers.kept_eq
  rw [Logger.lets_foldl_take] at hKept
  exact ⟨rfl, hKept⟩

end Logged

theorem listen_reportAll (es : List Event) : (reportAll es).listen = reportAll es := by
  induction es with
  | nil => rfl
  | cons e rest ih => simp only [reportAll, Logged.listen_bind, Logged.listen_report, ih]

/-! ## Merging -/

namespace Bundle

theorem listen_addBodyLine (b : Bundle) (c : Cursor) (l : Text) :
    (b.addBodyLine c l).listen = b.addBodyLine c l := by
  unfold addBodyLine
  cases c.current with
  | none => simp only [Logged.listen_bind, Logged.listen_report, Logged.listen_pure]
  | some name => exact Logged.listen_lookUp _ _

theorem listen_declare (b : Bundle) (name : Text) :
    (b.declare name).listen = b.declare name := by
  simp only [declare, Logged.listen_ite, Logged.listen_bind, Logged.listen_report,
    Logged.listen_pure]

theorem listen_applyInfo (b : Bundle) (indent : Text) (words : List Text) :
    (b.applyInfo indent words).listen = b.applyInfo indent words := by
  simp only [applyInfo, Logged.listen_ite, Logged.listen_bind, Logged.listen_lookUp,
    Logged.listen_report, Logged.listen_pure]

/-- Whatever is done for a kind of directive is done in the same way with a logger. -/
theorem listen_handler (b : Bundle) (kind : Directive.Kind) (indent : Text) (words : List Text) :
    ((handlers.lookup kind).getD applyNothing b indent words).listen =
      (handlers.lookup kind).getD applyNothing b indent words := by
  cases kind with
  | pluginInfo => exact listen_applyInfo b indent words
  | nothing => rfl

theorem listen_readDirective (l : Text) : (readDirective l).listen = readDirective l := by
  unfold readDirective
  cases Directive.kindAndWords l with
  | ok read => rfl
  | error reason => simp only [Logged.listen_bind, Logged.listen_report, Logged.listen_pure]

theorem listen_expand (b : Bundle) (c : Cursor) (l : Text) :
    (b.expand c l).listen = b.expand c l := by
  simp only [expand, Logged.listen_ite, Logged.listen_bind, Logged.listen_report,
    Logged.listen_pure, Logged.lookUp_eq, lookUp_eq_pure, pure_bind, listen_readDirective,
    listen_handler]

theorem listen_mergeBody (b : Bundle) (c : Cursor) (l : Text) :
    (b.mergeBody c l).listen = b.mergeBody c l := by
  simp only [mergeBody, Logged.listen_ite, Logged.listen_bind, listen_addBodyLine, listen_expand]
  congr
  funext x
  cases x.2 with
  | none => rfl
  | some line => exact listen_addBodyLine x.1 c line

theorem listen_mergeTopLevel (b : Bundle) (c : Cursor) (l : Text) :
    (b.mergeTopLevel c l).listen = b.mergeTopLevel c l := by
  unfold mergeTopLevel
  cases Line.topLevel l with
  | declaration name => simp only [Logged.listen_bind, Logged.listen_pure, listen_declare]
  | importing => rfl
  | nothing => rfl

theorem listen_mergeRetained (b : Bundle) (c : Cursor) (l : Text) :
    (b.mergeRetained c l).listen = b.mergeRetained c l := by
  simp only [mergeRetained, Logged.listen_ite, Logged.listen_bind, Logged.listen_pure,
    listen_mergeTopLevel, listen_mergeBody]

theorem listen_mergeLine (b : Bundle) (c : Cursor) (l : Text) :
    (b.mergeLine c l).listen = b.mergeLine c l := by
  simp only [mergeLine, Logged.listen_ite, Logged.listen_bind, Logged.listen_report,
    Logged.listen_pure, listen_mergeRetained]

theorem listen_mergeLines (b : Bundle) (c : Cursor) (ls : List Text) :
    (b.mergeLines c ls).listen = b.mergeLines c ls := by
  induction ls generalizing b c with
  | nil => rfl
  | cons l rest ih => simp only [mergeLines, Logged.listen_bind, listen_mergeLine, ih]

theorem listen_mergeFile (b : Bundle) (f : SourceFile) :
    (b.mergeFile f).listen = b.mergeFile f := by
  simp only [mergeFile, Logged.listen_bind, Logged.listen_report, Logged.listen_pure,
    listen_mergeLines]

theorem listen_mergeEach (b : Bundle) (files : List SourceFile) :
    (b.mergeEach files).listen = b.mergeEach files := by
  induction files generalizing b with
  | nil => rfl
  | cons f rest ih => simp only [mergeEach, Logged.listen_bind, listen_mergeFile, ih]

end Bundle

theorem listen_debugFlag (files : List SourceFile) :
    (debugFlag files).listen = debugFlag files := by
  unfold debugFlag
  cases debugFile? files with
  | none => rfl
  | some f => simp only [Logged.listen_bind, Logged.listen_report, Logged.listen_pure]

/-- Merging with a logger is merging, listened to. -/
theorem listen_mergeFiles (name version : Text) (files : List SourceFile) :
    (mergeFiles name version files).listen = mergeFiles name version files := by
  simp only [mergeFiles, Logged.listen_bind, listen_debugFlag, Bundle.listen_mergeEach]

/-! ## Building -/

namespace Disk

theorem listen_searchBelow (d : Disk) (root : Location) (reach : Nat) :
    (d.searchBelow root reach).listen = d.searchBelow root reach := by
  simp only [searchBelow, Logged.listen_bind, listen_reportAll]
  cases (d.descend root (reach + 1) []).stop with
  | none => simp only [Logged.listen_bind, Logged.listen_pure, listen_reportAll]
  | some cause => rfl

theorem listen_search (d : Disk) (here : Location) (source : Path) (reach : Nat) :
    (d.search here source reach).listen = d.search here source reach := by
  simp only [search, Logged.listen_ite, Logged.listen_pure]
  congr
  cases d.entryAt (.ofLocation (source.resolve here)) with
  | ok entry =>
    cases entry with
    | directory => exact listen_searchBelow d _ reach
    | file content => rfl
  | error fault => cases fault <;> rfl

theorem listen_buildInto (d : Disk) (place : Location) (s : Settings) (tool : Tool) (now : Moment)
    (files : List SourceFile) :
    (d.buildInto place s tool now files).listen = d.buildInto place s tool now files := by
  simp only [buildInto, Logged.listen_ite, Logged.listen_bind, Logged.listen_report,
    Logged.listen_pure, listen_mergeFiles]

/-- Building with a logger is building, listened to. -/
theorem listen_build (d : Disk) (s : Settings) (tool : Tool) (now : Moment) (reach : Nat) :
    (d.build s tool now reach).listen = d.build s tool now reach := by
  simp only [build, Logged.listen_bind, Logged.listen_report]
  congr
  funext _
  cases d.openTarget s.target with
  | error cause => rfl
  | ok place =>
    simp only [Logged.listen_bind, listen_search]
    congr
    funext result
    cases result with
    | error cause => rfl
    | ok found => exact listen_buildInto _ place s tool now _

end Disk

end PluginMerge
