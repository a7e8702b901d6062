import PluginMerge.Log.Logged
import PluginMerge.Source.File

/-!
# Finding the sources

The sources of a plugin are the files with the suffix `.cs` at any depth below the source directory,
hidden ones included, except those with the name of the generated assembly description. They are
taken in the order of their relative paths by code point, so the order in which a file system lists
its entries does not matter.

A search goes down from directory to directory and looks at every name with the suffix on its way.
It ends early where it comes to a path with too many octets, and where the directories are nested
more deeply than the stack allows. How much of the stack is left depends on who calls, so the number
of levels is an argument (`reach`).

* `Disk.descend`: the files that a search meets, and what ends it.
* `Disk.search`: the sources at a path.
-/

namespace PluginMerge

/-- The end of the name of every source file. -/
def sourceSuffix : Text := ".cs".toList

/-- The name of files that are no sources although their suffix says so. -/
def excludedName : Text := "AssemblyInfo.cs".toList

/-- A file below a directory: the names from the directory down to it, and its content. -/
structure Found where
  below : Location
  content : Octets
  deriving DecidableEq, Repr

namespace Found

/-- The path from the directory to the file. -/
def path (f : Found) : Text := Text.joined ['/'] f.below

/-- The name of the file. -/
def name (f : Found) : Text := f.below.getLast?.getD []

/-- Whether the name is the one that is left out. -/
def isExcluded (f : Found) : Bool := f.name == excludedName

/-- The order of relative paths. -/
def le (f g : Found) : Bool := Text.le f.path g.path

/-- The file with its lines. -/
def read (f : Found) : SourceFile := .ofOctets f.path f.content

end Found

/-! ## Walks -/

/-- How far a search has come: the files it has met, and why it went no further, if it did not. -/
structure Walk where
  found : List Found := []
  stop : Option Failure := none
  deriving DecidableEq, Repr

namespace Walk

/-- A walk that ends at once. -/
def stopped (cause : Failure) : Walk := { stop := some cause }

/-- One walk and then another, unless the first one was stopped. -/
def andThen (v w : Walk) : Walk :=
  match v.stop with
  | some _ => v
  | none => ⟨v.found ++ w.found, w.stop⟩

/-- Walks one after the other, up to the first one that is stopped. -/
def concat (ws : List Walk) : Walk := ws.foldr andThen {}

end Walk

/-- The failure of a search that has used up the stack. -/
def Failure.stackUsedUp : Failure := .unexpected "maximum recursion depth exceeded".toList

/-- The failure for the path of a place that has too many octets. -/
def Failure.tooLong (l : Location) : Failure := .pathRefused .tooLong (.ofLocation l)

/-- The number of levels of directories that a search can go down when it is called by the command.
-/
def usualReach : Nat := 985

namespace Disk

/-- Whether the path of a place has too many octets, as a whole or in one of its names. -/
def isTooLong (l : Location) : Bool :=
  decide (pathLimit < (Octets.encode l.render).length) ||
    l.any fun name => decide (nameLimit < (Octets.encode name).length)

/-- The name and content of an entry, if it stands directly in a directory. -/
def entryIn? (here : Location) (x : Location × Entry) : Option (Text × Entry) :=
  if x.1.length = here.length + 1 ∧ here.isPrefixOf x.1 then some (x.1.getLastD [], x.2) else none

/-- The entries directly in a directory, in the order of the disk. -/
def entriesIn (d : Disk) (here : Location) : List (Text × Entry) :=
  d.entries.filterMap (entryIn? here)

/-- The names of the directories directly in a directory. -/
def directoriesIn (d : Disk) (here : Location) : List Text :=
  (d.entriesIn here).filterMap fun x => if x.2 = .directory then some x.1 else none

/-- Look at an entry of the directory `below` the root: only a name with the suffix of sources is
looked at. -/
def lookAt (root below : Location) (x : Text × Entry) : Walk :=
  if sourceSuffix.isSuffixOf x.1 then
    if isTooLong (root ++ (below ++ [x.1])) then .stopped (.tooLong (root ++ (below ++ [x.1])))
    else
      match x.2 with
      | .file content => { found := [⟨below ++ [x.1], content⟩] }
      | .directory => {}
  else {}

/-- Go down from the directory `below` the root, for so many levels. The entries of a directory are
looked at before the directories in it are. -/
def descend (d : Disk) (root : Location) (levels : Nat) (below : Location) : Walk :=
  if isTooLong (root ++ below) then .stopped (.tooLong (root ++ below))
  else
    (Walk.concat ((d.entriesIn (root ++ below)).map (lookAt root below))).andThen
      (match levels with
        | 0 => .stopped .stackUsedUp
        | levels + 1 => Walk.concat ((d.directoriesIn (root ++ below)).map fun name =>
            d.descend root levels (below ++ [name])))

/-! ## Sources -/

/-- The sources among files, by relative path. -/
def sourcesAmong (files : List Found) : List Found :=
  (files.filter (!·.isExcluded)).mergeSort Found.le

/-- The events of the files that are left out. -/
def excludedEvents (root : Location) (files : List Found) : List Event :=
  (files.filter Found.isExcluded).map fun f => .excluded (Location.render (root ++ f.below))

/-- The events of the sources with their numbers. -/
def listedEvents (root : Location) (sources : List Found) : List Event :=
  sources.zipIdx.map fun x => .listed (x.2 + 1) (Location.render (root ++ x.1.below))

variable {m : Type → Type} [Monad m] [Journal m]

/-- The sources below a directory. -/
def searchBelow (d : Disk) (root : Location) (reach : Nat) : m (Except Failure (List Found)) := do
  let walk := d.descend root (reach + 1) []
  reportAll (excludedEvents root walk.found)
  match walk.stop with
  | some cause => pure (.error cause)
  | none =>
    reportAll (listedEvents root (sourcesAmong walk.found))
    pure (.ok (sourcesAmong walk.found))

/-- The sources at a path, for a reader at `here`. -/
def search (d : Disk) (here : Location) (source : Path) (reach : Nat) :
    m (Except Failure (List Found)) :=
  let root := source.resolve here
  if source.hasNull then pure (.error .nullInPath)
  else
    match d.entryAt (.ofLocation root) with
    | .ok .directory => d.searchBelow root reach
    | .ok (.file _) => pure (.error (.sourceNotDirectory source))
    | .error .tooLong => pure (.error (.tooLong root))
    | .error _ => pure (.error (.sourceMissing source))

/-- The sources at a path with the log of the search, unless it fails. -/
def discover (d : Disk) (here : Location) (source : Path) (reach : Nat := usualReach) :
    Except Failure (Logged (List Found)) :=
  let result : Logged (Except Failure (List Found)) := d.search here source reach
  result.value.map fun found => ⟨found, result.log⟩

end Disk

end PluginMerge
