import PluginMerge.Disk
import PluginMerge.Text.Quoted

/-!
# Failures

The causes that end a run, each with its wording.
-/

namespace PluginMerge

/-- Why a run ends without a result. -/
inductive Failure where
  /-- There is nothing at the place of the sources. -/
  | sourceMissing (source : Path)
  /-- There is a file at the place of the sources. -/
  | sourceNotDirectory (source : Path)
  /-- A path does not lead to what is looked for. -/
  | pathRefused (fault : PathFault) (path : Path)
  /-- A path holds the null character. -/
  | nullInPath
  /-- The working directory does not exist any more. -/
  | workingDirectoryMissing
  /-- A variable that switches something on or off holds neither. -/
  | invalidToggle (name raw : Text)
  /-- No verbosity has this name. -/
  | unknownLevel (title : Text)
  /-- A verbosity was asked for, but none was named. -/
  | levelNotNamed
  /-- Something that no rule of the program foresees. -/
  | unexpected (message : Text)
  deriving DecidableEq, Repr

namespace Failure

/-- The wording of a failure. -/
def message : Failure → Text
  | sourceMissing source => "Source directory not found: ".toList ++ source.render
  | sourceNotDirectory source => "Source path is not a directory: ".toList ++ source.render
  | pathRefused fault path => fault.message ++ ": ".toList ++ Text.quoted path.render
  | nullInPath => "embedded null byte".toList
  | workingDirectoryMissing => PathFault.missing.message
  | invalidToggle name raw =>
    "Invalid boolean for ".toList ++ name ++ ": ".toList ++ Text.quoted raw
  | unknownLevel title => "Unknown log level: ".toList ++ Text.quoted title
  | levelNotNamed => "'list' object has no attribute 'upper'".toList
  | unexpected message => message

/-- Whether some rule of the program foresees a failure. -/
def isForeseen : Failure → Bool
  | levelNotNamed => false
  | unexpected _ => false
  | _ => true

end Failure

end PluginMerge
