import PluginMerge.Bundle
import PluginMerge.Log.Logged
import PluginMerge.Source.File
import PluginMerge.Tracking

/-!
# Merging

Files are merged line by line into a bundle. A line outside all braces may be an import or declare a
namespace; a line inside braces goes to the bucket of the namespace declared last in its file.
A line that opens the first brace or closes the last one goes nowhere. Debug regions are left out
unless some line of some file switches debugging on.

* `mergeLine`: one line.
* `mergeFile`: one file, from a fresh cursor.
* `mergeFiles`: all files of a plugin.
-/

namespace PluginMerge

/-- The position in a file. -/
structure Cursor where
  path : Text
  /-- The namespace declared last. -/
  current : Option Text := none
  depth : Int := 0
  region : Region := {}
  /-- The number of the line, counted from one; zero in front of the first line. -/
  line : Int := 0
  deriving DecidableEq, Repr

/-- The cursor on the next line. -/
def Cursor.next (c : Cursor) : Cursor := { c with line := c.line + 1 }

variable {m : Type → Type} [Monad m] [Journal m] [LookUps m]

namespace Bundle

/-- The bundle with a line at the end of the current bucket. Without a namespace the line is
dropped. -/
def addBodyLine (b : Bundle) (c : Cursor) (l : Text) : m Bundle :=
  match c.current with
  | none => do
    report (.lineDropped c.path c.line l)
    pure b.dropLine
  | some name => lookUp (b.addLine? name l) b

/-- The bundle that knows a namespace. -/
def declare (b : Bundle) (name : Text) : m Bundle :=
  if b.hasNamespace name then pure b
  else do
    report (.namespaceAdded name)
    pure (b.addNamespace name)

/-- A directive describes the plugin, unless that is done already, and is replaced by its attribute.
-/
def applyInfo (b : Bundle) (indent : Text) (words : List Text) : m (Bundle × Option Text) := do
  let info ← lookUp (PluginInfo.ofWords? words) ⟨unknown, unknown, unknown⟩
  if b.attribution.locked then
    report (.attributionKept b.attribution.author)
  pure (b.describe info, some (b.infoAttribute indent info))

/-- A line is dropped. -/
def applyNothing (b : Bundle) (_indent : Text) (_words : List Text) : m (Bundle × Option Text) :=
  pure (b, none)

/-- What is done for each kind of directive. -/
def handlers : List (Directive.Kind × (Bundle → Text → List Text → m (Bundle × Option Text))) :=
  [(.pluginInfo, applyInfo), (.nothing, applyNothing)]

/-- The kind of a line's directive and its words. A line that is refused asks for nothing. -/
def readDirective (l : Text) : m (Directive.Kind × List Text) :=
  match Directive.kindAndWords l with
  | .ok read => pure read
  | .error reason => do
    report (.directiveRefused l reason)
    pure (.nothing, [])

/-- Carry out the directive on a line. The result is the line that replaces it, if any. -/
def expand (b : Bundle) (c : Cursor) (l : Text) : m (Bundle × Option Text) := do
  let (kind, words) ← readDirective l
  let handler ← lookUp (handlers.lookup kind) applyNothing
  let (b, replacement) ← handler b (Directive.indent l) words
  if replacement.isSome then
    report (.attributeInserted c.path c.line)
  pure (b, replacement)

/-- A line between braces: a directive is carried out, any other line is kept. -/
def mergeBody (b : Bundle) (c : Cursor) (l : Text) : m Bundle :=
  if Line.isDirective l then do
    let (b, replacement) ← b.expand c l
    match replacement with
    | some line => b.addBodyLine c line
    | none => pure b
  else b.addBodyLine c l

/-- A line outside all braces. The second part of the result is the namespace from here on. -/
def mergeTopLevel (b : Bundle) (c : Cursor) (l : Text) : m (Bundle × Option Text) :=
  match Line.topLevel l with
  | .declaration name => do
    let b ← b.declare name
    pure (b, some name)
  | .importing => pure (b.addImport l, c.current)
  | .nothing => pure (b, c.current)

/-- A line that counts. -/
def mergeRetained (b : Bundle) (c : Cursor) (l : Text) : m (Bundle × Option Text) :=
  if c.depth = 0 then b.mergeTopLevel c l
  else if depthAfter c.depth l = 0 then pure (b, c.current)
  else do
    let b ← b.mergeBody c l
    pure (b, c.current)

/-- One line at the cursor. -/
def mergeLine (b : Bundle) (c : Cursor) (l : Text) : m (Bundle × Cursor) := do
  let region := c.region.enter l
  let (b, current) ←
    if region.retains b.debug then b.mergeRetained c l
    else do
      report (.lineSkipped c.path c.line)
      pure (b, c.current)
  pure (b, { c with current, depth := depthAfter c.depth l, region := region.leave l })

/-- Lines behind the cursor. -/
def mergeLines (b : Bundle) (c : Cursor) : List Text → m (Bundle × Cursor)
  | [] => pure (b, c)
  | l :: rest => do
    let (b, c) ← b.mergeLine c.next l
    b.mergeLines c rest

/-- Merging lines in two parts: the second part continues with the bundle and the cursor of the
first. -/
theorem mergeLines_append [LawfulMonad m] (b : Bundle) (c : Cursor) (xs ys : List Text) :
    (b.mergeLines c (xs ++ ys) : m (Bundle × Cursor)) =
      b.mergeLines c xs >>= fun r => r.1.mergeLines r.2 ys := by
  induction xs generalizing b c with
  | nil => rw [List.nil_append, mergeLines, pure_bind]
  | cons l rest ih =>
    rw [List.cons_append, mergeLines, mergeLines, bind_assoc]
    exact congrArg _ (funext fun r => ih r.1 r.2)

/-- One file. -/
def mergeFile (b : Bundle) (f : SourceFile) : m Bundle := do
  report (.parsing f.path)
  let (b, _) ← b.mergeLines { path := f.path } f.lines
  pure { b with filesMerged := b.filesMerged + 1 }

/-- Files one after the other. -/
def mergeEach (b : Bundle) : List SourceFile → m Bundle
  | [] => pure b
  | f :: rest => do
    let b ← b.mergeFile f
    b.mergeEach rest

end Bundle

/-- The first file with a line that switches debugging on. -/
def debugFile? (files : List SourceFile) : Option SourceFile :=
  files.find? fun f => f.lines.any Line.enablesDebug

/-- Whether some line of some file switches debugging on. -/
def debugFlag (files : List SourceFile) : m Bool :=
  match debugFile? files with
  | some f => do
    report (.debugEnabled f.path)
    pure true
  | none => pure false

/-- All files of a plugin. -/
def mergeFiles (name version : Text) (files : List SourceFile) : m Bundle := do
  let debug ← debugFlag files
  Bundle.mergeEach { name, version, debug } files

end PluginMerge
