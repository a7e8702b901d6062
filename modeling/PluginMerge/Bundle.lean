import PluginMerge.Directive

/-!
# Bundles

A bundle is what a merge has gathered: the imports, one bucket of lines for each namespace, the
description of the plugin, and two counts. Imports and namespaces are kept in the order in which
they were met first.
-/

namespace PluginMerge

/-- The description of a plugin. It is locked once a directive has given it. -/
structure Attribution where
  author : Text := unknown
  resourceId : Text := unknown
  pluginUrl : Text := unknown
  sourceUrl : Text := unknown
  locked : Bool := false
  deriving DecidableEq, Repr

/-- The description that a directive gives. -/
def Attribution.ofInfo (info : PluginInfo) : Attribution where
  author := info.author
  resourceId := Directive.resourceId info.pluginUrl
  pluginUrl := info.pluginUrl
  sourceUrl := info.sourceUrl
  locked := true

/-- What a merge has gathered for the plugin of a name and version. -/
structure Bundle where
  name : Text
  version : Text
  debug : Bool := false
  imports : List Text := []
  buckets : List (Text × List Text) := []
  attribution : Attribution := {}
  filesMerged : Nat := 0
  droppedLines : Nat := 0
  deriving DecidableEq, Repr

namespace Bundle

/-- The names of the namespaces, in the order in which they were met. -/
def namespaces (b : Bundle) : List Text := b.buckets.map Prod.fst

/-- The lines of a namespace. -/
def bucket? (b : Bundle) (name : Text) : Option (List Text) := b.buckets.lookup name

/-- Whether a namespace has a bucket. -/
def hasNamespace (b : Bundle) (name : Text) : Bool := b.namespaces.contains name

/-- The bundle with an import, which is kept only once. -/
def addImport (b : Bundle) (l : Text) : Bundle :=
  if b.imports.contains l then b else { b with imports := b.imports ++ [l] }

/-- The bundle with a bucket for a namespace, empty if it is new. -/
def addNamespace (b : Bundle) (name : Text) : Bundle :=
  if b.hasNamespace name then b else { b with buckets := b.buckets ++ [(name, [])] }

/-- The bundle with a line at the end of a bucket. A bundle without the bucket stays as it is. -/
def addLine (b : Bundle) (name l : Text) : Bundle :=
  { b with
    buckets := b.buckets.map fun x => if x.1 = name then (x.1, x.2 ++ [l]) else x }

/-- The bundle with a line at the end of a bucket, if there is the bucket. -/
def addLine? (b : Bundle) (name l : Text) : Option Bundle :=
  if b.hasNamespace name then some (b.addLine name l) else none

/-- The bundle with one more line that belongs nowhere. -/
def dropLine (b : Bundle) : Bundle := { b with droppedLines := b.droppedLines + 1 }

/-- The bundle with the description of the plugin, unless it has one already. -/
def describe (b : Bundle) (info : PluginInfo) : Bundle :=
  if b.attribution.locked then b else { b with attribution := .ofInfo info }

/-- The attribute that a directive is replaced by. It shows the words of that directive, whatever
the bundle's own description is. -/
def infoAttribute (b : Bundle) (indent : Text) (info : PluginInfo) : Text :=
  Directive.infoAttribute indent b.name info.author b.version
    (Directive.resourceId info.pluginUrl)

end Bundle

end PluginMerge
