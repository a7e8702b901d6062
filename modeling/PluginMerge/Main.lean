import PluginMerge.Command
import Std.Time.DateTime

/-!
# The program

The outer layer: it reads the part of the machine's disk that a call can touch, lets the library
carry out the call, and writes back the files that the call changed.
-/

namespace PluginMerge.Machine

/-- The text of a place as the machine takes it. -/
def pathText (place : Location) : String := String.ofList (Location.render place)

/-- What stands at a place of the machine. -/
def entryAt (place : Location) : IO (Option Entry) := do
  let path := (← IO.currentDir) / pathText place
  if ← path.isDir then pure (some .directory)
  else if ← path.pathExists then pure (some (.file (← IO.FS.readBinFile path).toList))
  else pure none

/-- The names in a directory of the machine. -/
def namesIn (place : Location) : IO (List Text) := do
  let path := (← IO.currentDir) / pathText place
  pure ((← path.readDir).toList.map fun entry => entry.fileName.toList)

/-- The disk with what the machine has at a place. -/
def loadEntry (disk : Disk) (place : Location) : IO Disk := do
  if place.isEmpty then pure disk
  else
    match ← entryAt place with
    | some entry => pure (disk.put place entry)
    | none => pure disk

/-- The disk with what the machine has at and below a place. -/
partial def loadTree (disk : Disk) (place : Location) : IO Disk := do
  let mut disk ← loadEntry disk place
  if disk.get? place = some .directory then
    for name in ← namesIn place do
      disk ← loadTree disk (place ++ [name])
  pure disk

/-- The disk with what the machine has along a path. -/
def loadWay (disk : Disk) (path : Path) : IO Disk :=
  (List.range (path.parts.length + 1)).foldlM
    (fun disk n => loadEntry disk ((path.parts.take n).foldl Path.step [])) disk

/-- The part of the machine's disk that a command line can touch. -/
def load (here : Option Location) (arguments : List Text) : IO Disk := do
  match here, parseArguments arguments with
  | some here, .ok (_, source :: target :: _) =>
    let source := Settings.locate here source
    let disk ← loadWay (← loadWay {} source) (Settings.locate here target)
    loadTree disk (source.resolve here)
  | _, _ => pure {}

/-- Write the files that a call changed. -/
def store (before after : Disk) : IO Unit :=
  for (place, content) in after.files do
    unless before.get? place = some (.file content) do
      IO.FS.writeBinFile (pathText place) ⟨content.toArray⟩

/-- The time of the machine's clock. -/
def now : IO Moment := do
  let time := Std.Time.PlainDateTime.ofWallTime ((← Std.Time.Timestamp.now).toWallTime .zero)
  pure
    { year := Int.toNat time.year
      month := time.month.val.toNat
      day := time.day.val.toNat
      hour := time.hour.val.toNat
      minute := time.minute.val.toNat
      second := time.second.val.toNat }

/-- The variables that the program looks at. -/
def environment : IO Environment := do
  let mut env := []
  for name in timestampVariables ++ Command.levelVariables do
    if let some value ← IO.getEnv (String.ofList name) then
      env := env ++ [(name, value.toList)]
  pure env

/-- The version of this program. -/
def tool : Tool := ⟨"1.0.0".toList, unknownVersion⟩

/-- Print the events that a threshold shows: warnings and errors apart from the rest. -/
def printLog (t : Threshold) (log : List Event) : IO Unit :=
  for event in Event.shown t log do
    let line := String.ofList event.message
    if Level.warning.rank ≤ event.level.rank then IO.eprintln line else IO.println line

/-- The working directory of the machine, unless it does not exist any more. -/
def workingDirectory : IO (Option Location) :=
  try
    let directory ← IO.currentDir
    pure (some ((Path.parse directory.toString.toList).resolve []))
  catch _ => pure none

/-- One call of the program. -/
def call (arguments : List String) : IO UInt32 := do
  let arguments := arguments.map String.toList
  let here ← workingDirectory
  let disk ← load here arguments
  let host : Host := { here, environment := ← environment, now := ← now, tool }
  let report := Command.run host {} disk arguments
  store disk report.disk
  IO.print (String.ofList report.out)
  IO.eprint (String.ofList report.err)
  printLog report.console.threshold report.log
  pure report.exit.toUInt32

end PluginMerge.Machine

def main (arguments : List String) : IO UInt32 := PluginMerge.Machine.call arguments
