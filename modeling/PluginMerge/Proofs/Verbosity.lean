import PluginMerge.Proofs.Footprint
import PluginMerge.Proofs.Listening

/-!
# Verbosity and results

Two runs that differ in nothing but the level of their loggers have the same result, and the logger
with the higher level has kept what the other one has kept, less the records below its level. For a
build this includes the verbosity among its settings. For the command it includes the way in which a
failure is reported: that depends on the verbosity only if nobody foresaw the failure, and the only
such failure of a build is that the search for sources uses up the stack.

* `Disk.isForeseen_of_build`: the failures of a build.
* `Command.buildWith_console`: what the console decides about a build by the command.
* `Disk.build_indifferent`: building, merging and the command with two verbosities.
-/

namespace PluginMerge

theorem Event.shown_of_le {t u : Threshold} (h : t.effective.rank ≤ u.effective.rank)
    (log : List Event) :
    Event.shown u log = (Event.shown t log).filter fun e => u.passes e.level := by
  have hNew : Logger.Covers (.ofThreshold t) (.ofThreshold u) := .of_le (Int.ofNat_le.mpr h)
  have hKept := (hNew.foldl_take log).kept_eq
  rw [Logger.lets_foldl_take, Logger.kept_ofThreshold, Logger.kept_ofThreshold,
    Logger.lets_ofThreshold] at hKept
  exact hKept

/-! ## Building -/

namespace Disk

variable {d : Disk} {here root : Location} {source target : Path} {cause : Failure} {s : Settings}
  {tool : Tool} {now : Moment} {reach : Nat}

theorem build_verbosity (d : Disk) (s : Settings) (tool : Tool) (now : Moment) (reach : Nat)
    (v : Level) :
    (d.build { s with verbosity := v } tool now reach : Logged BuildResult) =
      d.build s tool now reach := rfl

theorem TargetFault.isForeseen (h : d.TargetFault target cause) : cause.isForeseen = true := by
  cases h <;> rfl

theorem SourceFault.isForeseen (h : d.SourceFault here source reach cause)
    (hStack : cause ≠ .stackUsedUp) : cause.isForeseen = true := by
  cases h with
  | obstacle hSource hObstacle =>
    cases hObstacle with
    | depth hReaches hDeep => exact absurd rfl hStack
    | _ => rfl
  | _ => rfl

/-- Every failure of a build is foreseen but the one of a search that uses up the stack. -/
theorem isForeseen_of_build (h : (d.build s tool now reach).value.outcome = .error cause)
    (hStack : cause ≠ .stackUsedUp) : cause.isForeseen = true := by
  rcases isTarget_or_targetFault d s.target with ⟨place, hTarget⟩ | ⟨refusal, hFault⟩
  · rcases searchable_or_sourceFault (d.emptied place) [] s.source reach with
      hSource | ⟨refusal, hFault, hSearch⟩
    · rw [value_build_of_searchable hTarget hSource] at h
      cases h
    · rw [value_build_of_sourceFault hTarget hSearch] at h
      cases h
      exact hFault.isForeseen hStack
  · rw [value_build_of_targetFault hFault] at h
    cases h
    exact hFault.isForeseen

end Disk

namespace Command

variable {host : Host} {disk : Disk} {log : List Event} {cause : Failure} {r : Request}
  {t : Threshold}

theorem isForeseen_of_timestampSetting {flag : Bool} {env : Environment}
    (h : timestampSetting flag env = .error cause) : cause.isForeseen = true := by
  unfold timestampSetting at h
  split at h
  · cases h
  · split at h
    · unfold parseToggle at h
      split at h
      · cases h
      · split at h
        · cases h
        · cases h
          rfl
    · cases h

theorem isForeseen_of_settings (h : settings host t r = .error cause) :
    cause.isForeseen = true := by
  unfold settings Settings.resolve at h
  split at h
  · split at h
    · cases h
      rfl
    · cases hTimestamp : timestampSetting r.disableTimestamp host.environment with
      | error fault =>
        rw [hTimestamp] at h
        cases h
        exact isForeseen_of_timestampSetting hTimestamp
      | ok setting =>
        rw [hTimestamp] at h
        cases h
  · cases h
    rfl

/-- The verbosity ends up in the settings and decides nothing else about them. -/
theorem settings_threshold (host : Host) (t u : Threshold) (r : Request) :
    settings host u r =
      (settings host t r).map fun s => { s with verbosity := u.effective } := by
  unfold settings Settings.resolve
  split
  · split
    · rfl
    · cases timestampSetting r.disableTimestamp host.environment <;> rfl
  · rfl

theorem fail_of_isForeseen (h : cause.isForeseen = true) (console console' : Console) :
    fail host console' disk log cause =
      { fail host console disk log cause with console := console' } := by
  unfold fail failureEvent
  rw [if_pos h, if_pos h]
  split <;> rfl

/-- The console decides nothing about the exit of a build and the disk that it leaves. -/
theorem exit_disk_buildWith_console (host : Host) (console console' : Console) (disk : Disk)
    (log : List Event) (r : Request) :
    let builder : Builder := fun d s => d.build s host.tool host.now host.reach
    (buildWith builder host console' disk log r).exit =
        (buildWith builder host console disk log r).exit ∧
      (buildWith builder host console' disk log r).disk =
        (buildWith builder host console disk log r).disk := by
  intro builder
  have hSettings := settings_threshold host console.threshold console'.threshold r
  cases hOrder : settings host console.threshold r with
  | error cause =>
    rw [hOrder] at hSettings
    simp only [buildWith, hSettings, hOrder, Except.map, exit_fail, disk_fail, and_self]
  | ok s =>
    rw [hOrder] at hSettings
    obtain ⟨hDisk, hExit⟩ := buildWith_of_settings builder hOrder disk log
    obtain ⟨hDisk', hExit'⟩ := buildWith_of_settings builder hSettings disk log
    exact ⟨hExit'.trans hExit.symm, hDisk'.trans hDisk.symm⟩

/-- Unless the search uses up the stack, the console decides nothing about a build but the console
that it leaves. -/
theorem buildWith_console (host : Host) (console console' : Console) (disk : Disk)
    (log : List Event) (r : Request)
    (hStack : ∀ s, settings host console.threshold r = .ok s →
      (disk.build s host.tool host.now host.reach).value.outcome ≠ .error .stackUsedUp) :
    buildWith (fun d s => d.build s host.tool host.now host.reach) host console' disk log r =
      { buildWith (fun d s => d.build s host.tool host.now host.reach) host console disk log r with
        console := console' } := by
  unfold buildWith
  -- A failure asks the console how to report it only if it is not foreseen.
  rw [settings_threshold host console.threshold console'.threshold r]
  cases hSettings : settings host console.threshold r with
  | error cause => exact fail_of_isForeseen (isForeseen_of_settings hSettings) console console'
  | ok s =>
    simp only [Except.map, Disk.build_verbosity]
    cases hOutcome : (disk.build s host.tool host.now host.reach).value.outcome with
    | error cause =>
      have hCause : cause ≠ .stackUsedUp := by
        rintro rfl
        exact hStack s hSettings hOutcome
      exact fail_of_isForeseen (Disk.isForeseen_of_build hOutcome hCause) console console'
    | ok b => rfl

end Command

/-- **Verbosity does not change a result.** For two loggers with the levels `a ≤ b`, and whatever
the settings say about the verbosity, a build has the same outcome and leaves the same disk, and the
second logger keeps exactly the records of the first one that have at least the level `b`. The same
holds of merging. A build by the command, whose console decides what is shown, has the same exit and
leaves the same disk, and unless its search uses up the stack, everything else is the same too. -/
theorem Disk.build_indifferent (d : Disk) (s : Settings) (tool : Tool) (now : Moment) (reach : Nat)
    (v w : Level) (name version : Text) (files : List SourceFile) (host : Host) (log : List Event)
    (r : Request) {a b : Int} (hab : a ≤ b) :
    (let low := (d.build { s with verbosity := v } tool now reach : StateM Logger _).run ⟨a, []⟩
      let high := (d.build { s with verbosity := w } tool now reach : StateM Logger _).run ⟨b, []⟩
      high.1.outcome = low.1.outcome ∧ high.1.disk = low.1.disk ∧
        high.2.kept = low.2.kept.filter fun e => decide (b ≤ e.level.rank)) ∧
      (let low := (mergeFiles name version files : StateM Logger _).run ⟨a, []⟩
        let high := (mergeFiles name version files : StateM Logger _).run ⟨b, []⟩
        high.1 = low.1 ∧
          high.2.kept = low.2.kept.filter fun e => decide (b ≤ e.level.rank)) ∧
      ∀ ca cb : Console, ca.threshold.effective.rank = a → cb.threshold.effective.rank = b →
        let builder : Command.Builder := fun d s => d.build s host.tool host.now host.reach
        let low := Command.buildWith builder host ca d log r
        let high := Command.buildWith builder host cb d log r
        high.exit = low.exit ∧ high.disk = low.disk ∧
          ((∀ s, Command.settings host ca.threshold r = .ok s →
              (builder d s).value.outcome ≠ .error .stackUsedUp) →
            high = { low with console := cb } ∧
              Event.shown cb.threshold high.log =
                (Event.shown ca.threshold low.log).filter fun e => decide (b ≤ e.level.rank)) := by
  refine ⟨?_, ?_, ?_⟩
  · intro low high
    obtain ⟨hResult, hKept⟩ := Logged.run_listen_of_le hab (d.build s tool now reach)
    rw [listen_build] at hResult hKept
    exact ⟨congrArg BuildResult.outcome hResult, congrArg BuildResult.disk hResult, hKept⟩
  · have hRun := Logged.run_listen_of_le hab (mergeFiles name version files)
    rwa [listen_mergeFiles] at hRun
  · rintro ca cb rfl rfl builder low high
    obtain ⟨hExit, hDisk⟩ := Command.exit_disk_buildWith_console host ca cb d log r
    refine ⟨hExit, hDisk, fun hStack => ?_⟩
    have hReport : high = { low with console := cb } :=
      Command.buildWith_console host ca cb d log r hStack
    have hLog : high.log = low.log := by rw [hReport]
    refine ⟨hReport, ?_⟩
    rw [hLog, Event.shown_of_le (Int.ofNat_le.mp hab)]
    simp only [Threshold.passes, Int.ofNat_le]

/-- A build without sources, a file with a line that has no namespace to go to, and a build by the
command. -/
theorem Disk.build_indifferent_traceInfo :
    let d := ({} : Disk).put ["src".toList] .directory
    let s : Settings :=
      { source := .parse "/src".toList, target := .parse "/Out.cs".toList, name := "P".toList
        version := "1".toList, disableTimestamp := true, timestampOrigin := .standard
        verbosity := .info }
    let tool : Tool := ⟨"1.0.0".toList, unknownVersion⟩
    let now : Moment := ⟨2001, 2, 3, 4, 5, 6⟩
    let file : SourceFile := ⟨"A.cs".toList, ["class A \x7b".toList, "x".toList, "\x7d".toList]⟩
    let host : Host := { here := some [], now, tool }
    let r : Request :=
      { source := "src".toList, target := "Out.cs".toList, name := "P".toList
        version := "1".toList }
    let low := (d.build { s with verbosity := .trace } tool now : StateM Logger _).run ⟨5, []⟩
    let high := (d.build { s with verbosity := .info } tool now : StateM Logger _).run ⟨20, []⟩
    let merging : StateM Logger Bundle := mergeFiles "P".toList "1".toList [file]
    let usual : Command.Builder := fun d s => d.build s host.tool host.now host.reach
    (5 : Int) ≤ 20 ∧
      low.2.kept = [.buildStarted "P".toList "1".toList, .sourcesFound 0 s.source,
        .toolIdentified tool.version tool.commit, .saved s.target, .buildFinished 0] ∧
      high.2.kept = [.buildStarted "P".toList "1".toList, .sourcesFound 0 s.source,
        .saved s.target, .buildFinished 0] ∧
      high.1.disk = low.1.disk ∧ high.1.disk ≠ d ∧
      (merging.run ⟨5, []⟩).2.kept =
        [.parsing "A.cs".toList, .lineDropped "A.cs".toList 2 "x".toList] ∧
      (merging.run ⟨20, []⟩).2.kept = [.lineDropped "A.cs".toList 2 "x".toList] ∧
      Command.buildWith usual host ⟨.level .info, true⟩ d [] r =
        { Command.buildWith usual host ⟨.level .trace, false⟩ d [] r with
          console := ⟨.level .info, true⟩ } := by
  intro d s tool now file host r low high merging usual
  have hLow : low.2.kept = [.buildStarted "P".toList "1".toList, .sourcesFound 0 s.source,
      .toolIdentified tool.version tool.commit, .saved s.target, .buildFinished 0] := by
    decide +kernel
  have hMerging : (merging.run ⟨5, []⟩).2.kept =
      [.parsing "A.cs".toList, .lineDropped "A.cs".toList 2 "x".toList] := by decide +kernel
  have hOrder : (5 : Int) ≤ 20 := by decide
  obtain ⟨⟨-, hDisk, hKept⟩, ⟨-, hMerged⟩, hReports⟩ :=
    Disk.build_indifferent d s tool now usualReach .trace .info "P".toList "1".toList [file] host []
      r hOrder
  refine ⟨hOrder, hLow, ?_, ?_, ?_, hMerging, ?_, ?_⟩
  · simp only [low, high] at hLow ⊢
    rw [hKept, hLow]
    decide +kernel
  · simp only [low, high]
    exact hDisk
  · decide +kernel
  · simp only [merging] at hMerging ⊢
    rw [hMerged, hMerging]
    decide +kernel
  · refine ((hReports ⟨.level .trace, false⟩ ⟨.level .info, true⟩ rfl rfl).2.2 ?_).1
    have hBuilt : (Command.settings host (.level .trace) r).map (fun s =>
        decide ((usual d s).value.outcome = .error .stackUsedUp)) = .ok false := by
      decide +kernel
    intro s' hSettings
    rw [hSettings] at hBuilt
    simpa [Except.map] using hBuilt

end PluginMerge
