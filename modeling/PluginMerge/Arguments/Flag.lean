import PluginMerge.Log.Level

/-!
# Flags of the command line

The options that the command knows, how they are spelt, and which of them exclude each other.
-/

namespace PluginMerge

/-- An option of the command. -/
inductive Flag where
  | help
  | disableTimestamp
  | noColor
  | color
  | version
  | quiet
  | verbose
  | logLevel
  deriving DecidableEq, Repr

namespace Flag

/-- All options in the order in which they are listed. -/
def all : List Flag :=
  [.help, .disableTimestamp, .noColor, .color, .version, .quiet, .verbose, .logLevel]

/-- The ways to write an option. -/
def spellings : Flag → List Text
  | help => ["-h".toList, "--help".toList]
  | disableTimestamp => ["--disable-build-timestamp".toList]
  | noColor => ["--no-color".toList]
  | color => ["--color".toList]
  | version => ["--version".toList]
  | quiet => ["-q".toList, "--quiet".toList]
  | verbose => ["-v".toList, "--verbose".toList]
  | logLevel => ["--log-level".toList]

/-- An option as messages name it. -/
def title (f : Flag) : Text := Text.joined ['/'] f.spellings

/-- Whether a value belongs to the option. -/
def takesValue : Flag → Bool
  | logLevel => true
  | _ => false

/-- The options that cannot stand beside an option. -/
def rivals : Flag → List Flag
  | noColor => [color]
  | color => [noColor]
  | quiet => [verbose, logLevel]
  | verbose => [quiet, logLevel]
  | logLevel => [quiet, verbose]
  | _ => []

/-- Every spelling with its option, in the order in which they are listed. -/
def table : List (Text × Flag) := all.flatMap fun f => f.spellings.map fun s => (s, f)

/-- All spellings in the order in which they are listed. -/
def known : List Text := table.map Prod.fst

/-- The option with exactly this spelling. -/
def ofSpelling? (s : Text) : Option Flag := table.lookup s

end Flag

end PluginMerge
