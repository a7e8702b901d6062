import PluginMerge.Directive
import PluginMerge.Failure
import PluginMerge.Log.Level

/-!
# Events

What the program reports, as data. Each event has a level and a wording; which events are shown is
decided by a threshold alone, so that verbosity cannot influence a result.

Three records about the surroundings of a run are not among the events: the directory from which the
version of the program is looked up, the runtime and its release, and the settings as one record.
All three are below the level of a normal run, and nothing but the place of the installation, the
machine and the settings decides about their wording.
-/

namespace PluginMerge

/-- Something that happened and may be reported. -/
inductive Event where
  /-- A file was left out of the sources. -/
  | excluded (path : Text)
  /-- A file is the source of this number. -/
  | listed (number : Nat) (path : Text)
  /-- A file switches debugging on. -/
  | debugEnabled (path : Text)
  /-- A file is read line by line. -/
  | parsing (path : Text)
  /-- A namespace was met for the first time. -/
  | namespaceAdded (name : Text)
  /-- A line of a debug region was left out. -/
  | lineSkipped (path : Text) (line : Int)
  /-- A line has no namespace to go to. -/
  | lineDropped (path : Text) (line : Int) (content : Text)
  /-- A line looked like a directive and is none. -/
  | directiveRefused (content : Text) (reason : Directive.Refusal)
  /-- A plugin is described a second time; the author is the first one's. -/
  | attributionKept (author : Text)
  /-- A directive was replaced by an attribute. -/
  | attributeInserted (path : Text) (line : Int)
  /-- The version of the program itself was looked up. -/
  | toolIdentified (version commit : Text)
  /-- A build begins. -/
  | buildStarted (name version : Text)
  /-- The sources of a build were read. -/
  | sourcesFound (count : Nat) (source : Path)
  /-- So many lines of a build had no namespace to go to. -/
  | linesDropped (count : Nat)
  /-- The result of a build was written. -/
  | saved (target : Path)
  /-- A build ended with so many files. -/
  | buildFinished (count : Nat)
  /-- The verbosity was set. -/
  | verbositySet (title : Text)
  /-- The version of the program itself was asked for. -/
  | versionShown (version commit : Text)
  /-- The command line has the wrong number of words. -/
  | wrongWordCount (expected count : Nat)
  /-- The run failed. -/
  | failed (cause : Failure)
  /-- The run failed in a way nobody foresaw; the level depends on the verbosity. -/
  | crashed (level : Level) (message : Text)
  deriving DecidableEq, Repr

namespace Event

/-- The level of an event. -/
def level : Event → Level
  | excluded _ => .trace
  | listed _ _ => .trace
  | debugEnabled _ => .info
  | parsing _ => .debug
  | namespaceAdded _ => .debug
  | lineSkipped _ _ => .trace
  | lineDropped _ _ _ => .warning
  | directiveRefused _ _ => .debug
  | attributionKept _ => .warning
  | attributeInserted _ _ => .info
  | toolIdentified _ _ => .trace
  | buildStarted _ _ => .info
  | sourcesFound _ _ => .info
  | linesDropped _ => .warning
  | saved _ => .info
  | buildFinished _ => .info
  | verbositySet _ => .trace
  | versionShown _ _ => .info
  | wrongWordCount _ _ => .error
  | failed _ => .error
  | crashed level _ => level

/-- A place in a file, as shown. -/
def position (path : Text) (line : Int) : Text := path ++ ":".toList ++ Text.ofInt line

/-- The wording of a refusal. -/
def refusalMessage (content : Text) : Directive.Refusal → Text
  | .noArguments =>
    "Ignoring directive without arguments: ".toList ++ Text.quoted (Text.strip content)
  | .unknownKind word => "Ignoring unknown directive kind ".toList ++ Text.quoted word
  | .wrongCount count =>
    "Ignoring ".toList ++ Directive.pluginInfoKind ++ " directive: expected ".toList ++
      Text.ofNat Directive.pluginInfoArity ++ " arguments, got ".toList ++ Text.ofNat count

/-- The wording of an event. -/
def message : Event → Text
  | excluded path => "[COLLECT] Excluded ".toList ++ path
  | listed number path =>
    "[COLLECT]   ".toList ++ Text.zeroPadded 2 (Text.ofNat number) ++ ". ".toList ++ path
  | debugEnabled path => "Debug enabled (".toList ++ path ++ ")".toList
  | parsing path => "Parsing ".toList ++ path
  | namespaceAdded name => "Added namespace ".toList ++ name
  | lineSkipped path line => "[DEBUG-REGION] skip ".toList ++ position path line
  | lineDropped path line content =>
    "Dropping line outside any namespace (".toList ++ position path line ++ "): ".toList ++
      Text.quoted (Text.strip content)
  | directiveRefused content reason => refusalMessage content reason
  | attributionKept author =>
    "PluginInfo already set (author=".toList ++ author ++ "); keeping the first one".toList
  | attributeInserted path line =>
    "Inserted ".toList ++ Directive.pluginInfoKind ++ " (".toList ++ position path line ++
      ")".toList
  | toolIdentified version commit =>
    "got version ".toList ++ version ++ " with commit ".toList ++ commit
  | buildStarted name version => "🔧 Merging plugin ".toList ++ name ++ " v".toList ++ version
  | sourcesFound count source =>
    "📂 Found ".toList ++ Text.ofNat count ++ " .cs file(s) in ".toList ++ source.render
  | linesDropped count =>
    Text.ofNat count ++ " line(s) outside any namespace were dropped".toList
  | saved target => "💾 Saved to ".toList ++ target.render
  | buildFinished count => "✅ Done! Merged ".toList ++ Text.ofNat count ++ " file(s).".toList
  | verbositySet title => "[BOOT] log-level initialized: ".toList ++ title
  | versionShown version commit =>
    "Oxify ".toList ++ version ++ " (".toList ++ commit ++ ")".toList
  | wrongWordCount expected count =>
    "Expected ".toList ++ Text.ofNat expected ++ " arguments, got ".toList ++ Text.ofNat count ++
      ".".toList
  | failed cause => cause.message
  | crashed _ message => "Unexpected internal error: ".toList ++ message

/-- The events that pass a threshold, in order. -/
def shown (t : Threshold) (log : List Event) : List Event := log.filter fun e => t.passes e.level

end Event

end PluginMerge
