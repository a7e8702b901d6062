import PluginMerge.Bundle

/-!
# The merged file

The text of a bundle: a header between two borders, the imports, and a block for each namespace.
-/

namespace PluginMerge

/-- The width that a border adds to the longest line of a header. -/
def borderMargin : Nat := 5

/-- The length of the longest of some texts. -/
def longest (header : List Text) : Nat := header.foldl (fun n h => max n h.length) 0

/-- The line of slashes above and below a header. -/
def border (header : List Text) : Text := List.replicate (longest header + borderMargin) '/'

/-- The border of a header that has a line; there is none without. -/
def border? (header : List Text) : Option Text :=
  if header.isEmpty then none else some (border header)

namespace Bundle

/-- The lines of the header. -/
def header (b : Bundle) (toolVersion buildDate : Text) : List Text :=
  [b.name ++ ".cs generated by Oxify v".toList ++ toolVersion ++ " - ".toList ++ buildDate,
    "PluginInfo: Title = \"".toList ++ b.name ++ "\", Author = \"".toList ++
      b.attribution.author ++ "\", Version = \"".toList ++ b.version ++
      "\", ResourceId = ".toList ++ b.attribution.resourceId,
    "OxideMod: ".toList ++ b.attribution.pluginUrl,
    "GitHub: ".toList ++ b.attribution.sourceUrl] ++
  if b.debug then ["Flags: OX.DEBUGENABLE".toList] else []

/-- The block of a namespace: a declaration behind an empty line, the lines, and a closing brace. -/
def block (bucket : Text × List Text) : List Text :=
  ["\nnamespace ".toList ++ bucket.1 ++ " \x7b".toList, Text.joined ['\n'] bucket.2, "\x7d".toList]

/-- The parts of the merged file, each of which is followed by a line feed. -/
def parts (b : Bundle) (toolVersion buildDate : Text) : List Text :=
  let header := b.header toolVersion buildDate
  [border header] ++ header.map ("// ".toList ++ ·) ++
    [border header, "\n".toList, Text.joined ['\n'] b.imports] ++ b.buckets.flatMap block

/-- The merged file. -/
def render (b : Bundle) (toolVersion buildDate : Text) : Text :=
  (b.parts toolVersion buildDate).flatMap (· ++ ['\n'])

end Bundle

end PluginMerge
