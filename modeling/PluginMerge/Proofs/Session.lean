import Mathlib.Data.List.Basic
import PluginMerge.Command

/-!
# Verbosity and colour across calls

The console keeps its verbosity and its colour from one call to the next. The two are not treated
alike: a call that gets as far as setting up the console always sets the verbosity, from its command
line, its environment or the standard, but changes the colour only if it is told to. A call that
does not get so far, because its command line is not carried out or because no verbosity has the
name it asks for, leaves both alone. What happens behind that point does not matter.

* `Command.AsksFor`: the name of the verbosity that a call asks for.
* `Command.Call.Refused`, `Command.Call.Prepares`: the two kinds of calls.
* `Command.session`: calls one after the other, each with its own surroundings.
* `Command.session_lastCall`: the verbosity is the one of the last call that prepared the console,
  and the colour the one of the last such call that chose it.
-/

namespace PluginMerge.Command

variable {c : Choices} {env : Environment} {name v : Text} {console : Console} {t : Threshold}
  {color : Option Bool}

/-! ## The verbosity that is asked for -/

/-- A variable is not set, or is set to nothing. -/
def Blank (env : Environment) (v : Text) : Prop := ∀ value, env.lookup v = some value → value = []

/-- The name of the verbosity that a call asks for: the one on the command line, else the first of
the two variables that is not blank, else the standard. An option with the separator attached as its
value asks for a verbosity of that name. -/
inductive AsksFor (c : Choices) (env : Environment) : Text → Prop where
  | named {name : Text} (hLevel : c.level = .named name) : AsksFor c env name
  | separator (hLevel : c.level = .notNamed) : AsksFor c env separatorMark
  | ownVariable {name : Text} (hLevel : c.level = .unset)
      (hSet : env.lookup "OXIFY_LOG_LEVEL".toList = some name) (hName : name ≠ []) :
      AsksFor c env name
  | commonVariable {name : Text} (hLevel : c.level = .unset)
      (hOwn : Blank env "OXIFY_LOG_LEVEL".toList)
      (hSet : env.lookup "LOG_LEVEL".toList = some name) (hName : name ≠ []) : AsksFor c env name
  | standard (hLevel : c.level = .unset) (hOwn : Blank env "OXIFY_LOG_LEVEL".toList)
      (hCommon : Blank env "LOG_LEVEL".toList) : AsksFor c env "info".toList

theorem Blank.filter_lookup (h : Blank env v) : (env.lookup v).filter (!·.isEmpty) = none := by
  cases hLookup : env.lookup v with
  | none => rfl
  | some value =>
    rw [h value hLookup]
    rfl

theorem filter_lookup (hSet : env.lookup v = some name) (hName : name ≠ []) :
    (env.lookup v).filter (!·.isEmpty) = some name := by
  simp [hSet, hName]

theorem blank_or_set (env : Environment) (v : Text) :
    Blank env v ∨ ∃ value, env.lookup v = some value ∧ value ≠ [] := by
  cases hLookup : env.lookup v with
  | none =>
    refine Or.inl fun value hValue => ?_
    cases hLookup.symm.trans hValue
  | some value =>
    by_cases hEmpty : value = []
    · refine Or.inl fun other hOther => ?_
      cases hLookup.symm.trans hOther
      exact hEmpty
    · exact Or.inr ⟨value, rfl, hEmpty⟩

theorem exists_asksFor (c : Choices) (env : Environment) : ∃ name, AsksFor c env name := by
  cases hLevel : c.level with
  | named name => exact ⟨name, .named hLevel⟩
  | notNamed => exact ⟨separatorMark, .separator hLevel⟩
  | unset =>
    rcases blank_or_set env "OXIFY_LOG_LEVEL".toList with hOwn | ⟨name, hSet, hName⟩
    · rcases blank_or_set env "LOG_LEVEL".toList with hCommon | ⟨name, hSet, hName⟩
      · exact ⟨_, .standard hLevel hOwn hCommon⟩
      · exact ⟨name, .commonVariable hLevel hOwn hSet hName⟩
    · exact ⟨name, .ownVariable hLevel hSet hName⟩

/-- The title of the level is the name in capitals, except for the separator, which is not taken as
a name. -/
theorem AsksFor.levelTitle_eq (h : AsksFor c env name) :
    levelTitle c env = .ok (Text.uppercase name) ∨
      levelTitle c env = .error .levelNotNamed ∧ name = separatorMark := by
  cases h with
  | named hLevel => simp only [levelTitle, hLevel, true_or]
  | separator hLevel => simp only [levelTitle, hLevel, true_and, or_true]
  | ownVariable hLevel hSet hName =>
    simp only [levelTitle, hLevel, environmentLevel?, levelVariables, List.findSome?_cons,
      filter_lookup hSet hName, Option.getD_some, true_or]
  | commonVariable hLevel hOwn hSet hName =>
    simp only [levelTitle, hLevel, environmentLevel?, levelVariables, List.findSome?_cons,
      hOwn.filter_lookup, filter_lookup hSet hName, Option.getD_some, true_or]
  | standard hLevel hOwn hCommon =>
    simp only [levelTitle, hLevel, environmentLevel?, levelVariables, List.findSome?_cons,
      List.findSome?_nil, hOwn.filter_lookup, hCommon.filter_lookup, Option.getD_none]
    exact Or.inl rfl

theorem AsksFor.levelTitle_of_known (h : AsksFor c env name)
    (hKnown : Threshold.ofTitle? (Text.uppercase name) = some t) :
    levelTitle c env = .ok (Text.uppercase name) := by
  refine h.levelTitle_eq.resolve_right ?_
  rintro ⟨-, rfl⟩
  have hUnknown : Threshold.ofTitle? (Text.uppercase separatorMark) = none := by decide +kernel
  cases hUnknown.symm.trans hKnown

/-! ## One call -/

variable {host : Host} {disk : Disk} {builder : Builder}

@[simp] theorem console_fail (log : List Event) (cause : Failure) :
    (fail host console disk log cause).console = console := by
  unfold fail
  split <;> rfl

theorem console_buildWith (log : List Event) (r : Request) :
    (buildWith builder host console disk log r).console = console := by
  unfold buildWith
  split
  · exact console_fail _ _
  · dsimp only
    split
    · exact console_fail _ _
    · rfl

theorem console_perform (title : Text) (words : List Text) :
    (perform builder host console disk c title words).console = console := by
  unfold perform
  dsimp only
  split
  · rfl
  · split
    · exact console_buildWith _ _
    · rfl

/-- One call with its surroundings. Unless another way to build is given, it builds as usual. -/
structure Call where
  host : Host
  disk : Disk
  arguments : List Text
  builder : Builder := fun d s => d.build s host.tool host.now host.reach

namespace Call

variable {call : Call}

/-- What a call leaves behind on a console. -/
def report (call : Call) (console : Console) : Report :=
  runWith call.builder call.host console call.disk call.arguments

/-- A call that does not get as far as setting up the console. -/
inductive Refused (call : Call) : Prop where
  | stopped {stop : Stop} (hRead : parseArguments call.arguments = .error stop) : Refused call
  | unknown {c : Choices} {words : List Text} {name : Text}
      (hRead : parseArguments call.arguments = .ok (c, words))
      (hAsks : AsksFor c call.host.environment name)
      (hUnknown : Threshold.ofTitle? (Text.uppercase name) = none) : Refused call

/-- A call that sets the console up with this verbosity and this choice of a colour. -/
inductive Prepares (call : Call) : Threshold → Option Bool → Prop where
  | intro {c : Choices} {words : List Text} {name : Text} {t : Threshold}
      (hRead : parseArguments call.arguments = .ok (c, words))
      (hAsks : AsksFor c call.host.environment name)
      (hKnown : Threshold.ofTitle? (Text.uppercase name) = some t) : Prepares call t c.color

/-- A call is refused before the console is set, or it sets it. -/
theorem refused_or_prepares (call : Call) : call.Refused ∨ ∃ t color, call.Prepares t color := by
  cases hRead : parseArguments call.arguments with
  | error stop => exact Or.inl (.stopped hRead)
  | ok read =>
    obtain ⟨c, words⟩ := read
    obtain ⟨name, hAsks⟩ := exists_asksFor c call.host.environment
    cases hTitle : Threshold.ofTitle? (Text.uppercase name) with
    | none => exact Or.inl (.unknown hRead hAsks hTitle)
    | some t => exact Or.inr ⟨t, c.color, .intro hRead hAsks hTitle⟩

theorem console_report_of_refused (h : call.Refused) (console : Console) :
    (call.report console).console = console := by
  unfold report runWith
  cases h with
  | @stopped stop hRead => cases stop <;> simp only [hRead]
  | unknown hRead hAsks hUnknown =>
    rcases hAsks.levelTitle_eq with hTitle | ⟨hTitle, -⟩
    · simp only [hRead, hTitle, prepare, hUnknown, console_fail]
    · simp only [hRead, hTitle, console_fail]

/-- A call that gets as far as the console sets its level, and its colours if it asks for some. -/
theorem console_report_of_prepares (h : call.Prepares t color) (console : Console) :
    (call.report console).console = ⟨t, color.getD console.color⟩ := by
  obtain ⟨hRead, hAsks, hKnown⟩ := h
  simp only [report, runWith, hRead, hAsks.levelTitle_of_known hKnown, prepare, hKnown,
    console_perform]

end Call

/-! ## Sessions -/

/-- The console after some calls. Each of them has its own environment and finds its own disk. -/
def session (console : Console) (calls : List Call) : Console :=
  calls.foldl (fun console call => (call.report console).console) console

variable {call : Call} {front back calls : List Call}

theorem session_append (console : Console) (front back : List Call) :
    session console (front ++ back) = session (session console front) back :=
  List.foldl_append

/-- Refused calls leave no trace in a session. -/
theorem session_of_refused (h : ∀ call ∈ calls, call.Refused) (console : Console) :
    session console calls = console := by
  induction calls generalizing console with
  | nil => rfl
  | cons call rest ih =>
    have hRest := ih fun later hLater => h later (List.mem_cons_of_mem call hLater)
    have hCall := Call.console_report_of_refused (h call List.mem_cons_self) console
    rw [session, List.foldl_cons, hCall]
    exact hRest console

/-- The colours stay as they are until a call asks for other ones. -/
theorem color_session (h : ∀ call ∈ calls, ∀ t value, ¬ call.Prepares t (some value))
    (console : Console) : (session console calls).color = console.color := by
  induction calls generalizing console with
  | nil => rfl
  | cons call rest ih =>
    have hRest := ih fun later hLater => h later (List.mem_cons_of_mem call hLater)
    have hCall : (call.report console).console.color = console.color := by
      rcases call.refused_or_prepares with hRefused | ⟨t, color, hPrepares⟩
      · rw [Call.console_report_of_refused hRefused]
      · rw [Call.console_report_of_prepares hPrepares]
        cases color with
        | none => rfl
        | some value => exact absurd hPrepares (h call List.mem_cons_self t value)
    rw [← hCall]
    exact hRest _

theorem session_of_prepares (h : call.Prepares t color) (console : Console)
    (front back : List Call) :
    session console (front ++ call :: back) =
      session ⟨t, color.getD (session console front).color⟩ back := by
  rw [session_append, ← Call.console_report_of_prepares h]
  rfl

/-- **The last call decides.** A call that is refused leaves the console as it is. Any other call
sets the verbosity it asks for, whatever it does afterwards and whatever the console was before,
and sets the colour if it chooses one. After a session the verbosity is therefore the one of the
last call that was not refused, and the colour the one of the last such call that chose a colour. -/
theorem session_lastCall (calls : List Call) :
    (∀ (call : Call) (console : Console),
        (call.Refused ∨ ∃ t color, call.Prepares t color) ∧
        (call.Refused → (call.report console).console = console) ∧
        ∀ t color, call.Prepares t color →
          (call.report console).console = ⟨t, color.getD console.color⟩) ∧
      (∀ front call back t color, calls = front ++ call :: back → call.Prepares t color →
        (∀ later ∈ back, later.Refused) → (session {} calls).threshold = t) ∧
      ((∀ call ∈ calls, call.Refused) → (session {} calls).threshold = .level .info) ∧
      (∀ front call back t value, calls = front ++ call :: back → call.Prepares t (some value) →
        (∀ later ∈ back, ∀ t value, ¬ later.Prepares t (some value)) →
        (session {} calls).color = value) ∧
      ((∀ call ∈ calls, ∀ t value, ¬ call.Prepares t (some value)) →
        (session {} calls).color = false) := by
  refine ⟨fun call console => ⟨call.refused_or_prepares, ?_, ?_⟩, ?_, ?_, ?_, ?_⟩
  · exact fun h => Call.console_report_of_refused h console
  · exact fun t color h => Call.console_report_of_prepares h console
  · rintro front call back t color rfl hPrepares hBack
    rw [session_of_prepares hPrepares, session_of_refused hBack]
  · intro hRefused
    rw [session_of_refused hRefused]
  · rintro front call back t value rfl hPrepares hBack
    rw [session_of_prepares hPrepares, color_session hBack]
    rfl
  · intro hNone
    rw [color_session hNone]

/-- The first call chooses the colour, and the second one, which fails for want of words, the
verbosity. Of the others one is misused, one asks for a verbosity that does not exist and one only
for help. -/
theorem session_lastCall_refusals :
    let call (environment : Environment) (arguments : List Text) : Call :=
      { host := { here := some [], environment, now := ⟨2001, 2, 3, 4, 5, 6⟩, tool := ⟨[], []⟩ }
        disk := {}
        arguments }
    let first := call [] ["--color".toList, "-q".toList, "--version".toList]
    let second := call [("OXIFY_LOG_LEVEL".toList, []), ("LOG_LEVEL".toList, "Debug".toList)]
      ["src".toList]
    let others :=
      [call [] ["--no-color".toList, "--nonsense".toList],
        call [("OXIFY_LOG_LEVEL".toList, "loud".toList)] ["--no-color".toList],
        call [] ["--no-color".toList, "-h".toList]]
    first.Prepares (.level .warning) (some true) ∧ second.Prepares (.level .debug) none ∧
      (∀ other ∈ others, other.Refused) ∧
      (session {} (first :: second :: others)).threshold = .level .debug ∧
      (session {} (first :: second :: others)).color = true := by
  intro call first second others
  have hFirst : first.Prepares (.level .warning) (some true) := by
    have hRead : parseArguments first.arguments =
        .ok (⟨false, some true, true, .named Level.warning.name⟩, []) := by decide +kernel
    exact .intro hRead (.named rfl) (by decide +kernel)
  have hSecond : second.Prepares (.level .debug) none := by
    have hRead : parseArguments second.arguments = .ok ({}, ["src".toList]) := by decide +kernel
    have hOwn : Blank second.host.environment "OXIFY_LOG_LEVEL".toList := by
      intro value hSet
      exact (Option.some.inj (List.lookup_cons_self.symm.trans hSet)).symm
    have hCommon : second.host.environment.lookup "LOG_LEVEL".toList = some "Debug".toList := by
      decide +kernel
    exact .intro hRead (.commonVariable rfl hOwn hCommon (by decide)) (by decide +kernel)
  have hOthers : ∀ other ∈ others, other.Refused := by
    have hNonsense : parseArguments ["--no-color".toList, "--nonsense".toList] =
        .error (.misuse (.unrecognized ["--nonsense".toList])) := by decide +kernel
    have hPlain : parseArguments ["--no-color".toList] =
        .ok (⟨false, some false, false, .unset⟩, []) := by decide +kernel
    have hHelp : parseArguments ["--no-color".toList, "-h".toList] = .error .help := by
      decide +kernel
    intro other hOther
    simp only [others, List.mem_cons, List.not_mem_nil, or_false] at hOther
    obtain rfl | rfl | rfl := hOther
    · exact .stopped hNonsense
    · exact .unknown hPlain (.ownVariable rfl List.lookup_cons_self (by decide)) (by decide +kernel)
    · exact .stopped hHelp
  obtain ⟨hSteps, hLevel, -, hColor, -⟩ := session_lastCall (first :: second :: others)
  refine ⟨hFirst, hSecond, hOthers, ?_, ?_⟩
  · exact hLevel [first] second others _ _ rfl hSecond hOthers
  · refine hColor [] first (second :: others) _ _ rfl hFirst ?_
    intro later hLater t value hLaterPrepares
    have hKeeps : ∀ console : Console, (later.report console).console.color = console.color := by
      intro console
      obtain ⟨-, hRefused, hPrepares⟩ := hSteps later console
      rcases List.mem_cons.mp hLater with rfl | hLater
      · rw [hPrepares _ _ hSecond]
        rfl
      · rw [hRefused (hOthers later hLater)]
    have hSets := (hSteps later ⟨t, !value⟩).2.2 _ _ hLaterPrepares
    have hClash := hKeeps ⟨t, !value⟩
    rw [hSets] at hClash
    cases value <;> cases hClash

end PluginMerge.Command
