import PluginMerge.Failure
import PluginMerge.Log.Level
import PluginMerge.Text.Blank
import PluginMerge.Text.Lowercase

/-!
# Settings of a build

Settings are decided by the command line, then by the environment, then by a standard. Paths that do
not start at a root are taken from the working directory.
-/

namespace PluginMerge

/-- The variables that are set, with their values. -/
abbrev Environment := List (Text × Text)

/-- What decided a setting. -/
inductive Origin where
  | commandLine
  | environment
  | standard
  deriving DecidableEq, Repr

namespace Origin

/-- The short name of an origin. -/
def title : Origin → Text
  | commandLine => "cli".toList
  | environment => "env".toList
  | standard => "default".toList

end Origin

/-! ## Toggles -/

/-- The texts that switch something on. -/
def onWords : List Text := ["1".toList, "true".toList, "yes".toList, "on".toList]

/-- The texts that switch something off. -/
def offWords : List Text := ["0".toList, "false".toList, "no".toList, "off".toList, []]

/-- The text of a toggle without the blanks around it and in small letters. -/
def toggleWord (raw : Text) : Text := Text.lowercase (Text.strip raw)

/-- What the value of a variable switches. -/
def parseToggle (name raw : Text) : Except Failure Bool :=
  if onWords.contains (toggleWord raw) then .ok true
  else if offWords.contains (toggleWord raw) then .ok false
  else .error (.invalidToggle name raw)

/-- The variables that switch the build time off, in order of precedence. -/
def timestampVariables : List Text :=
  ["OXIFY_DISABLE_BUILD_TIMESTAMP".toList, "DISABLE_BUILD_TIMESTAMP".toList]

/-- The first of some variables that is set, with its value. -/
def Environment.firstSet? (env : Environment) (names : List Text) : Option (Text × Text) :=
  names.findSome? fun name => (env.lookup name).map fun raw => (name, raw)

/-- Whether the build time is left out, and what decided it. -/
def timestampSetting (flag : Bool) (env : Environment) : Except Failure (Bool × Origin) :=
  if flag then .ok (true, .commandLine)
  else
    match env.firstSet? timestampVariables with
    | some (name, raw) => (parseToggle name raw).map fun value => (value, .environment)
    | none => .ok (false, .standard)

/-! ## Settings -/

/-- What the command line asks for. -/
structure Request where
  source : Text
  target : Text
  name : Text
  version : Text
  disableTimestamp : Bool := false
  deriving DecidableEq, Repr

/-- Everything a build needs to know. -/
structure Settings where
  source : Path
  target : Path
  name : Text
  version : Text
  disableTimestamp : Bool
  timestampOrigin : Origin
  verbosity : Level
  deriving DecidableEq, Repr

namespace Settings

/-- The path that an argument denotes for a reader at `here`. -/
def locate (here : Location) (argument : Text) : Path :=
  Path.under (.ofLocation here) (.parse argument)

/-- The settings of a request, for a reader in the directory at an absolute path. -/
def resolve (directory : Path) (env : Environment) (t : Threshold) (r : Request) :
    Except Failure Settings :=
  if directory.hasNull then .error .nullInPath
  else
    (timestampSetting r.disableTimestamp env).map fun setting =>
      { source := locate (directory.resolve []) r.source
        target := locate (directory.resolve []) r.target
        name := r.name
        version := r.version
        disableTimestamp := setting.1
        timestampOrigin := setting.2
        verbosity := t.effective }

end Settings

end PluginMerge
