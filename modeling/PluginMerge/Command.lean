import PluginMerge.Arguments.Choices
import PluginMerge.Build

/-!
# The command

One call of the command: read the command line, set the verbosity and the colour, and build. The
console keeps verbosity and colour from one call to the next.

* `Command.run`: one call.
* `Command.runWith`: the same with another way to build.
-/

namespace PluginMerge

/-- What the console keeps from call to call. -/
structure Console where
  threshold : Threshold := .level .info
  color : Bool := false
  deriving DecidableEq, Repr

/-- What surrounds a call. -/
structure Host where
  /-- The working directory, unless it does not exist any more. -/
  here : Option Location
  environment : Environment := []
  now : Moment
  tool : Tool
  /-- The number of levels of directories that a search can go down. -/
  reach : Nat := usualReach
  /-- Whether failures can be logged. Otherwise they are printed. -/
  canLog : Bool := true
  deriving DecidableEq, Repr

/-- What a call leaves behind. The log holds all events; the console's threshold says which of them
are shown. -/
structure Report where
  exit : Nat
  out : Text := []
  err : Text := []
  log : List Event := []
  console : Console
  disk : Disk
  deriving DecidableEq, Repr

namespace Command

/-- The number of words that a build needs. -/
def wordCount : Nat := 4

/-- The variables that set the verbosity, in order of precedence. -/
def levelVariables : List Text := ["OXIFY_LOG_LEVEL".toList, "LOG_LEVEL".toList]

/-- The name of the verbosity that the environment asks for: the first variable that is not empty.
-/
def environmentLevel? (env : Environment) : Option Text :=
  levelVariables.findSome? fun name => (env.lookup name).filter (!·.isEmpty)

/-- The name of the verbosity of a call, in capitals. -/
def levelTitle (c : Choices) (env : Environment) : Except Failure Text :=
  match c.level with
  | .named name => .ok (Text.uppercase name)
  | .unset => .ok (Text.uppercase ((environmentLevel? env).getD Level.info.name))
  | .notNamed => .error .levelNotNamed

/-- The console after the choices of a call, when the verbosity has the given name in capitals. -/
def prepare (console : Console) (c : Choices) (title : Text) : Except Failure Console :=
  match Threshold.ofTitle? title with
  | some threshold => .ok { threshold, color := c.color.getD console.color }
  | none => .error (.unknownLevel title)

/-- The event of a failure. An unforeseen one is critical, unless details for finding its cause are
shown as well. -/
def failureEvent (console : Console) (cause : Failure) : Event :=
  if cause.isForeseen then .failed cause
  else .crashed (if console.threshold.passes .debug then .error else .critical) cause.message

/-- The end of a call that failed after some events. -/
def fail (host : Host) (console : Console) (disk : Disk) (log : List Event) (cause : Failure) :
    Report :=
  if host.canLog then
    { exit := 1, log := log ++ [failureEvent console cause], console, disk }
  else
    { exit := 1
      err := "[FATAL] Logging failed while reporting: ".toList ++ cause.message ++ ['\n']
      log, console, disk }

/-- What a way to build does with settings on a disk. -/
abbrev Builder := Disk → Settings → Logged BuildResult

/-- The settings of a request in the working directory. -/
def settings (host : Host) (t : Threshold) (r : Request) : Except Failure Settings :=
  match host.here with
  | some here => Settings.resolve (.ofLocation here) host.environment t r
  | none => .error .workingDirectoryMissing

/-- A build with the words of a call. -/
def buildWith (builder : Builder) (host : Host) (console : Console) (disk : Disk)
    (log : List Event) (r : Request) : Report :=
  match settings host console.threshold r with
  | .error cause => fail host console disk log cause
  | .ok settings =>
    let result := builder disk settings
    match result.value.outcome with
    | .error cause => fail host console result.value.disk (log ++ result.log) cause
    | .ok _ => { exit := 0, log := log ++ result.log, console, disk := result.value.disk }

/-- A call on a console that is prepared for the verbosity of the given name. -/
def perform (builder : Builder) (host : Host) (console : Console) (disk : Disk) (c : Choices)
    (title : Text) (words : List Text) : Report :=
  let log : List Event := [.verbositySet title]
  if c.showVersion then
    { exit := 0
      log := log ++ [host.tool.identified, .versionShown host.tool.version host.tool.commit]
      console, disk }
  else
    match words with
    | [source, target, name, version] =>
      buildWith builder host console disk log
        { source, target, name, version, disableTimestamp := c.disableTimestamp }
    | _ =>
      { exit := 1
        err := usageLine
        log := log ++ [.wrongWordCount wordCount words.length]
        console, disk }

/-- One call with a given way to build. -/
def runWith (builder : Builder) (host : Host) (console : Console) (disk : Disk)
    (arguments : List Text) : Report :=
  match parseArguments arguments with
  | .error .help => { exit := 0, out := helpText, console, disk }
  | .error (.misuse m) => { exit := 1, err := m.render, console, disk }
  | .ok (choices, words) =>
    match levelTitle choices host.environment with
    | .error cause => fail host console disk [] cause
    | .ok title =>
      match prepare console choices title with
      | .error cause => fail host console disk [] cause
      | .ok console => perform builder host console disk choices title words

/-- One call. -/
def run (host : Host) (console : Console) (disk : Disk) (arguments : List Text) : Report :=
  runWith (fun d s => d.build s host.tool host.now host.reach) host console disk arguments

end Command

end PluginMerge
