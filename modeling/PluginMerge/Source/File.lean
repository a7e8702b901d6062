import PluginMerge.Source.Octets

/-!
# Source files

The content of a source file becomes a list of lines. A byte-order mark at the start is not part of
the text, ill-formed octets do no harm, and a line may end with a line feed, a carriage return or
both. Other separators, such as form feeds, stay inside lines.
-/

namespace PluginMerge

/-- The text with every line ending written as a line feed. -/
def foldNewlines : Text → Text
  | [] => []
  | '\r' :: '\n' :: rest => '\n' :: foldNewlines rest
  | c :: rest => (if c = '\r' then '\n' else c) :: foldNewlines rest

/-- The lines of a text whose lines end with line feeds; the last line needs none. -/
def linesOf (s : Text) : List Text :=
  let pieces := s.splitOnP (· == '\n')
  if pieces.getLast? = some [] then pieces.dropLast else pieces

/-- The octets that mark a file as UTF-8. -/
def byteOrderMark : Octets := [0xEF, 0xBB, 0xBF]

/-- The content without a byte-order mark at the start. A file that ends inside its mark is empty.
-/
def withoutMark (content : Octets) : Octets :=
  if content.isPrefixOf byteOrderMark then []
  else if byteOrderMark.isPrefixOf content then content.drop byteOrderMark.length
  else content

/-- A source file: its place below the source directory and its lines. -/
structure SourceFile where
  path : Text
  lines : List Text
  deriving DecidableEq, Repr

namespace SourceFile

/-- The source file with the given content. -/
def ofOctets (path : Text) (content : Octets) : SourceFile where
  path := path
  lines := linesOf (foldNewlines (Octets.decode (withoutMark content)))

end SourceFile

end PluginMerge
