import PluginMerge.Bundle.Render
import PluginMerge.Discovery
import PluginMerge.Merge
import PluginMerge.Settings
import PluginMerge.Tool

/-!
# Building

A build opens its target, reads the sources, merges them and writes the result. The target is
emptied before the sources are read: a build that finds no sources leaves it empty, and a target
among the sources counts as an empty one.
-/

namespace PluginMerge

/-- A moment of the calendar in universal time. -/
structure Moment where
  year : Nat
  month : Nat
  day : Nat
  hour : Nat
  minute : Nat
  second : Nat
  deriving DecidableEq, Repr

namespace Moment

/-- Two digits of a date or time. -/
def twoDigits (n : Nat) : Text := Text.zeroPadded 2 (Text.ofNat n)

/-- Date and time as a header shows them. -/
def render (m : Moment) : Text :=
  Text.ofNat m.year ++ "-".toList ++ twoDigits m.month ++ "-".toList ++ twoDigits m.day ++
    " ".toList ++ twoDigits m.hour ++ ":".toList ++ twoDigits m.minute ++ ":".toList ++
    twoDigits m.second ++ " UTC".toList

end Moment

/-- What a header shows instead of the build time. -/
def timestampPlaceholder : Text := "<build-timestamp>".toList

/-- The build time as a header shows it. -/
def buildDate (disabled : Bool) (now : Moment) : Text :=
  if disabled then timestampPlaceholder else now.render

/-- What a build leaves behind. -/
structure BuildResult where
  disk : Disk
  outcome : Except Failure Bundle

namespace Disk

/-- The disk with a file of the given text. -/
def write (d : Disk) (place : Location) (s : Text) : Disk :=
  d.put place (.file (Octets.encode s))

/-- The place of the target at an absolute path. -/
def openTarget (d : Disk) (target : Path) : Except Failure Location :=
  if target.hasNull then .error .nullInPath
  else (d.openForWriting target).mapError fun fault => .pathRefused fault target

variable {m : Type → Type} [Monad m] [Journal m] [LookUps m]

/-- Merge the sources of the settings into an emptied target. -/
def buildInto (d : Disk) (place : Location) (s : Settings) (tool : Tool) (now : Moment)
    (files : List SourceFile) : m BuildResult := do
  report (.sourcesFound files.length s.source)
  let b ← mergeFiles s.name s.version files
  report tool.identified
  if b.droppedLines ≠ 0 then
    report (.linesDropped b.droppedLines)
  report (.saved s.target)
  report (.buildFinished b.filesMerged)
  pure ⟨d.write place (b.render tool.version (buildDate s.disableTimestamp now)), .ok b⟩

/-- One build. -/
def build (d : Disk) (s : Settings) (tool : Tool) (now : Moment) (reach : Nat := usualReach) :
    m BuildResult := do
  report (.buildStarted s.name s.version)
  match d.openTarget s.target with
  | .error cause => pure ⟨d, .error cause⟩
  | .ok place =>
    let emptied := d.put place (.file [])
    match ← emptied.search [] s.source reach with
    | .error cause => pure ⟨emptied, .error cause⟩
    | .ok found => emptied.buildInto place s tool now (found.map Found.read)

end Disk

end PluginMerge
