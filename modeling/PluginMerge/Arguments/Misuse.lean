import PluginMerge.Arguments.Flag
import PluginMerge.Text.Blank
import PluginMerge.Text.Quoted
import PluginMerge.Text.Similarity

/-!
# Usage of the command line

The texts about how the command is called: its usage, its help, and what is wrong with a command
line. For unknown options that resemble a known one there is a hint.
-/

namespace PluginMerge

/-- The line that shows how to call the command. -/
def usageLine : Text := "usage: oxify [options] SOURCE TARGET PLUGIN_NAME VERSION\n".toList

/-- The names of the levels that an option can set, with commas between them. -/
def levelChoices : Text := Text.joined [','] (Level.all.map Level.name)

/-- The help text. -/
def helpText : Text :=
  usageLine ++
  ("\nMerge a plugin source tree into a single file.\n" ++
    "\npositional arguments:\n" ++
    "  ARG                   SOURCE directory, TARGET file, PLUGIN_NAME and VERSION\n" ++
    "                        (all four required).\n" ++
    "\noptions:\n" ++
    "  -h, --help            show this help message and exit\n" ++
    "  --disable-build-timestamp\n" ++
    "                        Use a fixed placeholder instead of the build time in\n" ++
    "                        the header.\n" ++
    "  --no-color            Disable ANSI color output.\n" ++
    "  --color               Force-enable ANSI color output (overrides auto-\n" ++
    "                        detect).\n" ++
    "  --version             Show version info.\n" ++
    "  -q, --quiet           Suppress non-critical output (same as --log-level\n" ++
    "                        warning).\n" ++
    "  -v, --verbose         Verbose output (same as --log-level debug).\n" ++
    "  --log-level \x7b").toList ++ levelChoices ++
  ("\x7d\n" ++
    "                        Set log verbosity level.\n").toList

/-- What is wrong with a command line. -/
inductive Misuse where
  /-- An abbreviation fits several spellings. -/
  | ambiguous (argument : Text) (spellings : List Text)
  /-- Something is attached to an option that takes no value. -/
  | ignoredValue (flag : Flag) (value : Text)
  /-- The value of an option is missing. -/
  | missingValue (flag : Flag)
  /-- The value of an option is not one of those allowed. -/
  | invalidChoice (flag : Flag) (value : Text)
  /-- Two options exclude each other. -/
  | conflict (flag rival : Flag)
  /-- Some arguments have no meaning. -/
  | unrecognized (arguments : List Text)
  deriving DecidableEq, Repr

namespace Misuse

/-- What is wrong with an option. -/
def aboutFlag (flag : Flag) (complaint : Text) : Text :=
  "argument ".toList ++ flag.title ++ ": ".toList ++ complaint

/-- The wording of a misuse. -/
def message : Misuse → Text
  | ambiguous argument spellings =>
    "ambiguous option: ".toList ++ argument ++ " could match ".toList ++
      Text.joined ", ".toList spellings
  | ignoredValue flag value =>
    aboutFlag flag ("ignored explicit argument ".toList ++ Text.quoted value)
  | missingValue flag => aboutFlag flag "expected one argument".toList
  | invalidChoice flag value =>
    aboutFlag flag ("invalid choice: ".toList ++ Text.quoted value ++ " (choose from ".toList ++
      Text.joined ", ".toList (Level.all.map fun l => Text.quoted l.name) ++ ")".toList)
  | conflict flag rival => aboutFlag flag ("not allowed with argument ".toList ++ rival.title)
  | unrecognized arguments =>
    "unrecognized arguments: ".toList ++ Text.joined [' '] arguments

/-- The words behind which a message names arguments without a meaning. -/
def unrecognizedMark : Text := "unrecognized arguments:".toList

/-- The options that a message says have no meaning. -/
def strangers (message : Text) : List Text :=
  match Text.afterFirst? unrecognizedMark message with
  | some rest => (Text.words Text.isBlank rest).filter (·.head? == some '-')
  | none => []

/-- The hints for a message: for each option without a meaning the known one closest to it. -/
def hints (message : Text) : List Text :=
  ((strangers message).filterMap (Text.closest? Flag.known)).map fun s =>
    "Hint: did you mean ".toList ++ s ++ "?".toList

/-- All that is printed about a misuse. -/
def render (m : Misuse) : Text :=
  usageLine ++
    (("oxify: error: ".toList ++ m.message) :: hints m.message).flatMap (· ++ ['\n'])

end Misuse

end PluginMerge
