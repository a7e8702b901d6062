import PluginMerge.Command
import PluginMerge.Proofs.Outcome

/-!
# What a call leaves on the disk

A call of the command has many ways to end before it builds: a wrong command line, a call for help
or for the version, a verbosity that is not known, a wrong number of words, a toggle with another
value than on and off. All of them leave the disk alone. What is left are the calls that order a
build, and `Command.Orders` lists what it takes. Such a call leaves the disk of the build.

* `Command.Orders`: the command line orders a build with these settings.
* `Command.run_of_orders`, `Command.run_of_not_orders`: what a call does with and without an order.
* `Command.Footprint`: the exits and disks that a call can leave, `Command.footprint_run` for every
  call.
* `Command.run_footprint`: what follows for the exit, the target and all other places.
-/

namespace PluginMerge

namespace Command

variable {host : Host} {console : Console} {disk : Disk} {arguments : List Text} {s s' : Settings}

/-! ## Orders -/

/-- The settings of a request in a working directory, once it is decided whether the build time is
left out. -/
def settled (here : Location) (t : Threshold) (r : Request) (timestamp : Bool × Origin) :
    Settings where
  source := Settings.locate ((Path.ofLocation here).resolve []) r.source
  target := Settings.locate ((Path.ofLocation here).resolve []) r.target
  name := r.name
  version := r.version
  disableTimestamp := timestamp.1
  timestampOrigin := timestamp.2
  verbosity := t.effective

/-- The command line orders a build with these settings: it is read without an objection and asks
neither for help nor for the version, it has four words, and its verbosity, the working directory
and what decides about the build time are all valid. -/
inductive Orders (host : Host) (arguments : List Text) : Settings → Prop where
  | intro {c : Choices} {source target name version title : Text} {threshold : Threshold}
      {here : Location} {timestamp : Bool × Origin}
      (hRead : parseArguments arguments = .ok (c, [source, target, name, version]))
      (hVersion : c.showVersion = false)
      (hTitle : levelTitle c host.environment = .ok title)
      (hThreshold : Threshold.ofTitle? title = some threshold)
      (hHere : host.here = some here)
      (hNull : (Path.ofLocation here).hasNull = false)
      (hTimestamp : timestampSetting c.disableTimestamp host.environment = .ok timestamp) :
      Orders host arguments
        (settled here threshold
          { source, target, name, version, disableTimestamp := c.disableTimestamp } timestamp)

/-- The command line asks for help, or is read without an objection and asks for the version. -/
def Informs (arguments : List Text) : Prop :=
  parseArguments arguments = .error .help ∨
    ∃ c words, parseArguments arguments = .ok (c, words) ∧ c.showVersion = true

theorem Orders.unique (h : Orders host arguments s) (h' : Orders host arguments s') : s = s' := by
  obtain ⟨hRead, -, hTitle, hThreshold, hHere, -, hTimestamp⟩ := h
  obtain ⟨hRead', -, hTitle', hThreshold', hHere', -, hTimestamp'⟩ := h'
  cases hRead.symm.trans hRead'
  cases hTitle.symm.trans hTitle'
  cases hThreshold.symm.trans hThreshold'
  cases hHere.symm.trans hHere'
  cases hTimestamp.symm.trans hTimestamp'
  rfl

/-- Settings are made as soon as there is a working directory without a null character and the
toggle is valid. -/
theorem settings_eq_ok_iff {t : Threshold} {r : Request} :
    settings host t r = .ok s ↔
      ∃ here timestamp, host.here = some here ∧ (Path.ofLocation here).hasNull = false ∧
        timestampSetting r.disableTimestamp host.environment = .ok timestamp ∧
        s = settled here t r timestamp := by
  unfold settings
  cases hHere : host.here with
  | none => simp
  | some here =>
    dsimp only [Settings.resolve]
    cases hNull : (Path.ofLocation here).hasNull with
    | true => simp [hNull]
    | false =>
      cases hTimestamp : timestampSetting r.disableTimestamp host.environment with
      | error cause => simp [Except.map]
      | ok timestamp =>
        constructor
        · intro h
          cases h
          exact ⟨here, timestamp, rfl, hNull, rfl, rfl⟩
        · rintro ⟨_, _, hSame, -, hSameTimestamp, rfl⟩
          cases hSame
          cases hSameTimestamp
          rfl

/-! ## Calls with and without an order -/

/-- The exit of a call whose build has this outcome. -/
def exitOf : Except Failure Bundle → Nat
  | .ok _ => 0
  | .error _ => 1

@[simp] theorem exit_fail (log : List Event) (cause : Failure) :
    (fail host console disk log cause).exit = 1 := by
  unfold fail
  split <;> rfl

@[simp] theorem disk_fail (log : List Event) (cause : Failure) :
    (fail host console disk log cause).disk = disk := by
  unfold fail
  split <;> rfl

theorem buildWith_of_settings (builder : Builder) {r : Request}
    (h : settings host console.threshold r = .ok s) (disk : Disk) (log : List Event) :
    (buildWith builder host console disk log r).disk = (builder disk s).value.disk ∧
      (buildWith builder host console disk log r).exit =
        exitOf (builder disk s).value.outcome := by
  simp only [buildWith, h]
  cases (builder disk s).value.outcome with
  | error cause => exact ⟨disk_fail _ _, exit_fail _ _⟩
  | ok b => exact ⟨rfl, rfl⟩

/-- A call with an order does what the build does, and its exit says whether the build failed. -/
theorem run_of_orders (h : Orders host arguments s) (console : Console) (disk : Disk) :
    (run host console disk arguments).disk =
        (disk.build s host.tool host.now host.reach).value.disk ∧
      (run host console disk arguments).exit =
        exitOf (disk.build s host.tool host.now host.reach).value.outcome := by
  obtain ⟨hRead, hVersion, hTitle, hThreshold, hHere, hNull, hTimestamp⟩ := h
  simp only [run, runWith, hRead, hTitle, prepare, hThreshold, perform, hVersion,
    Bool.false_eq_true, if_false]
  exact buildWith_of_settings _
    (settings_eq_ok_iff.mpr ⟨_, _, hHere, hNull, hTimestamp, rfl⟩) disk _

theorem buildWith_of_not_settings {builder : Builder} {r : Request}
    (h : ∀ s, settings host console.threshold r ≠ .ok s) (disk : Disk) (log : List Event) :
    (buildWith builder host console disk log r).disk = disk ∧
      (buildWith builder host console disk log r).exit = 1 := by
  unfold buildWith
  cases hSettings : settings host console.threshold r with
  | error cause => exact ⟨disk_fail _ _, exit_fail _ _⟩
  | ok s => exact absurd hSettings (h s)

/-- Without an order the disk stays as it is, whichever of the checks in front of a build ends the
call. -/
theorem run_of_not_orders (h : ∀ s, ¬ Orders host arguments s) (console : Console) (disk : Disk) :
    (run host console disk arguments).disk = disk ∧
      ((run host console disk arguments).exit = 1 ∨
        (run host console disk arguments).exit = 0 ∧ Informs arguments) := by
  unfold run runWith
  cases hRead : parseArguments arguments with
  | error stop =>
    cases stop with
    | help => exact ⟨rfl, Or.inr ⟨rfl, Or.inl hRead⟩⟩
    | misuse m => exact ⟨rfl, Or.inl rfl⟩
  | ok read =>
    obtain ⟨c, words⟩ := read
    dsimp only
    cases hTitle : levelTitle c host.environment with
    | error cause => exact ⟨disk_fail _ _, Or.inl (exit_fail _ _)⟩
    | ok title =>
      cases hThreshold : Threshold.ofTitle? title with
      | none =>
        simp only [prepare, hThreshold]
        exact ⟨disk_fail _ _, Or.inl (exit_fail _ _)⟩
      | some threshold =>
        simp only [prepare, hThreshold, perform]
        cases hVersion : c.showVersion with
        | true => exact ⟨rfl, Or.inr ⟨rfl, Or.inr ⟨c, words, hRead, hVersion⟩⟩⟩
        | false =>
          simp only [Bool.false_eq_true, if_false]
          split
          · -- All other checks are passed, so settings would make an order.
            refine And.imp_right Or.inl (buildWith_of_not_settings ?_ disk _)
            intro s hSettings
            obtain ⟨here, timestamp, hHere, hNull, hTimestamp, -⟩ :=
              settings_eq_ok_iff.mp hSettings
            exact h _ (.intro hRead hVersion hTitle hThreshold hHere hNull hTimestamp)
          · exact ⟨rfl, Or.inl rfl⟩

/-! ## Exit and disk -/

/-- The exits and disks that a call can leave. -/
inductive Footprint (host : Host) (disk : Disk) (arguments : List Text) : Nat → Disk → Prop where
  | refused : Footprint host disk arguments 1 disk
  | informed (hInforms : Informs arguments) : Footprint host disk arguments 0 disk
  | emptied {s : Settings} {place : Location} (hOrders : Orders host arguments s)
      (hTarget : disk.IsTarget s.target place) :
      Footprint host disk arguments 1 (disk.emptied place)
  | written {s : Settings} {place : Location} (hOrders : Orders host arguments s)
      (hTarget : disk.IsTarget s.target place)
      (hSource : (disk.emptied place).Searchable [] s.source host.reach) :
      Footprint host disk arguments 0
        (disk.put place (.file
          (Disk.octetsOf s host.tool host.now ((disk.emptied place).merged s host.reach))))

theorem footprint_run (host : Host) (console : Console) (disk : Disk) (arguments : List Text) :
    Footprint host disk arguments (run host console disk arguments).exit
      (run host console disk arguments).disk := by
  by_cases hOrders : ∃ s, Orders host arguments s
  · obtain ⟨s, hOrders⟩ := hOrders
    obtain ⟨hDisk, hExit⟩ := run_of_orders hOrders console disk
    rw [hDisk, hExit]
    rcases disk.isTarget_or_targetFault s.target with ⟨place, hTarget⟩ | ⟨cause, hFault⟩
    · rcases (disk.emptied place).searchable_or_sourceFault [] s.source host.reach with
        hSource | ⟨cause, -, hSearch⟩
      · rw [Disk.value_build_of_searchable hTarget hSource]
        exact .written hOrders hTarget hSource
      · rw [Disk.value_build_of_sourceFault hTarget hSearch]
        exact .emptied hOrders hTarget
    · rw [Disk.value_build_of_targetFault hFault]
      exact .refused
  · obtain ⟨hDisk, hExit | ⟨hExit, hInforms⟩⟩ :=
      run_of_not_orders (not_exists.mp hOrders) console disk
    · rw [hDisk, hExit]
      exact .refused
    · rw [hDisk, hExit]
      exact .informed hInforms

namespace Footprint

variable {exit : Nat} {d : Disk} {k : Location}

theorem exit_eq (h : Footprint host disk arguments exit d) : exit = 0 ∨ exit = 1 := by
  cases h with
  | refused => exact Or.inr rfl
  | informed hInforms => exact Or.inl rfl
  | emptied hOrders hTarget => exact Or.inr rfl
  | written hOrders hTarget hSource => exact Or.inl rfl

theorem get?_eq (h : Footprint host disk arguments exit d)
    (hk : ∀ s, Orders host arguments s → ¬ disk.IsTarget s.target k) : d.get? k = disk.get? k := by
  have hPut : ∀ {s place} (e : Entry), Orders host arguments s → disk.IsTarget s.target place →
      (disk.put place e).get? k = disk.get? k := by
    intro s place e hOrders hTarget
    have hne : k ≠ place := fun heq => hk s hOrders (heq ▸ hTarget)
    exact (Disk.sameBut_put disk place e).get?_eq hne
  cases h with
  | refused => rfl
  | informed hInforms => rfl
  | emptied hOrders hTarget => exact hPut _ hOrders hTarget
  | written hOrders hTarget hSource => exact hPut _ hOrders hTarget

theorem existsUnique_orders (h : Footprint host disk arguments exit d) (hd : d ≠ disk) :
    ∃! s, Orders host arguments s := by
  cases h with
  | refused => exact absurd rfl hd
  | informed hInforms => exact absurd rfl hd
  | emptied hOrders hTarget => exact ⟨_, hOrders, fun s' h' => h'.unique hOrders⟩
  | written hOrders hTarget hSource => exact ⟨_, hOrders, fun s' h' => h'.unique hOrders⟩

/-- Success without a call for help or the version means that the merged file is there, all of it.
-/
theorem written_of_exit_zero (h : Footprint host disk arguments exit d) (hExit : exit = 0)
    (hInforms : ¬ Informs arguments) :
    ∃ s place, Orders host arguments s ∧ disk.IsTarget s.target place ∧
      (disk.emptied place).Searchable [] s.source host.reach ∧
      d.get? place = some (.file
        (Disk.octetsOf s host.tool host.now ((disk.emptied place).merged s host.reach))) := by
  cases h with
  | refused => cases hExit
  | informed h => exact absurd h hInforms
  | emptied hOrders hTarget => cases hExit
  | written hOrders hTarget hSource =>
    exact ⟨_, _, hOrders, hTarget, hSource, Disk.get?_put_self disk hTarget.ne_nil _⟩

/-- A failed call has emptied the target at most. -/
theorem unchanged_or_emptied_of_exit_one (h : Footprint host disk arguments exit d)
    (hExit : exit = 1) :
    d = disk ∨ ∃ s place, Orders host arguments s ∧ disk.IsTarget s.target place ∧
      d.get? place = some (.file []) := by
  cases h with
  | refused => exact Or.inl rfl
  | informed hInforms => exact Or.inl rfl
  | emptied hOrders hTarget =>
    exact Or.inr ⟨_, _, hOrders, hTarget, Disk.get?_put_self disk hTarget.ne_nil _⟩
  | written hOrders hTarget hSource => cases hExit

end Footprint

/-- **A call touches the disk only through a build.** It exits with 0 or 1. No place but the target
of its order has another entry than before, and without an order the disk is the one before. An
order is carried out. With exit 0 and neither help nor version asked for, the target holds the
merged file of the build that was ordered. With exit 1 the disk is the one before, or the target is
empty. -/
theorem run_footprint (host : Host) (console : Console) (disk : Disk) (arguments : List Text) :
    let report := run host console disk arguments
    (report.exit = 0 ∨ report.exit = 1) ∧
      (∀ k, (∀ s, Orders host arguments s → ¬ disk.IsTarget s.target k) →
        report.disk.get? k = disk.get? k) ∧
      (report.disk ≠ disk → ∃! s, Orders host arguments s) ∧
      (∀ s, Orders host arguments s →
        report.disk = (disk.build s host.tool host.now host.reach).value.disk ∧
          report.exit = exitOf (disk.build s host.tool host.now host.reach).value.outcome) ∧
      (report.exit = 0 → ¬ Informs arguments →
        ∃ s place, Orders host arguments s ∧ disk.IsTarget s.target place ∧
          (disk.emptied place).Searchable [] s.source host.reach ∧
          report.disk.get? place = some (.file
            (Disk.octetsOf s host.tool host.now ((disk.emptied place).merged s host.reach)))) ∧
      (report.exit = 1 → report.disk = disk ∨
        ∃ s place, Orders host arguments s ∧ disk.IsTarget s.target place ∧
          report.disk.get? place = some (.file [])) := by
  have h := footprint_run host console disk arguments
  exact ⟨h.exit_eq, fun k hk => h.get?_eq hk, h.existsUnique_orders,
    fun s hOrders => run_of_orders hOrders console disk, h.written_of_exit_zero,
    h.unchanged_or_emptied_of_exit_one⟩

/-- A call with an option between its words, on a disk with an empty source directory. -/
theorem run_footprint_emptySource :
    let host : Host :=
      { here := some [], now := ⟨2001, 2, 3, 4, 5, 6⟩, tool := ⟨"1.0.0".toList, unknownVersion⟩ }
    let disk := ({} : Disk).put ["src".toList] .directory
    let arguments := ["src".toList, "Out.cs".toList, "--disable-build-timestamp".toList,
      "P".toList, "1".toList]
    let report := run host {} disk arguments
    report.exit = 0 ∧ ¬ Informs arguments ∧ report.disk ≠ disk ∧
      (∃! s, Orders host arguments s) ∧
      ∃ s place, Orders host arguments s ∧ disk.IsTarget s.target place ∧
        (disk.emptied place).Searchable [] s.source host.reach ∧
        report.disk.get? place = some (.file
          (Disk.octetsOf s host.tool host.now ((disk.emptied place).merged s host.reach))) := by
  intro host disk arguments report
  have hExit : report.exit = 0 := by decide +kernel
  have hChanged : report.disk ≠ disk := by decide +kernel
  have hRead : parseArguments arguments = .ok ({ disableTimestamp := true },
      ["src".toList, "Out.cs".toList, "P".toList, "1".toList]) := by
    decide +kernel
  have hInforms : ¬ Informs arguments := by
    rintro (hHelp | ⟨c, words, hOk, hVersion⟩)
    · cases hRead.symm.trans hHelp
    · cases hRead.symm.trans hOk
      cases hVersion
  obtain ⟨-, -, hOrdered, -, hWritten, -⟩ := run_footprint host {} disk arguments
  exact ⟨hExit, hInforms, hChanged, hOrdered hChanged, hWritten hExit hInforms⟩

end Command

end PluginMerge
