import PluginMerge.Text.Basic

/-!
# Paths

A path is read from a text into its normal form: empty components, components `.` and a trailing
slash vanish, while `..` stays. Exactly two leading slashes are a root of their own; any other
positive number is the plain root.

* `Path.parse`, `Path.render`: between texts and paths.
* `Path.under`: a path seen from a base.
* `Path.resolve`: the place a path denotes, with `..` applied to the components before it.
-/

namespace PluginMerge

/-- Where a path starts. -/
inductive Root where
  /-- At the place the reader is. -/
  | relative
  /-- At the root. -/
  | single
  /-- At the root written with two slashes. -/
  | double
  deriving DecidableEq, Repr

/-- A path in normal form. -/
structure Path where
  root : Root
  parts : List Text
  deriving DecidableEq, Repr

/-- A place on a disk: the names from the root down to it. -/
abbrev Location := List Text

/-- The component that stands for the directory above. -/
def parentPart : Text := "..".toList

/-- The component that stands for the directory itself. -/
def selfPart : Text := ".".toList

namespace Location

/-- The text of a place. -/
def render (l : Location) : Text := '/' :: Text.joined ['/'] l

end Location

namespace Path

/-- The root that a number of leading slashes stands for. -/
def rootOfSlashes : Nat → Root
  | 0 => .relative
  | 2 => .double
  | _ => .single

/-- The components that a normal form keeps. -/
def isPart (part : Text) : Bool := !part.isEmpty && part != selfPart

/-- The normal form of a text. -/
def parse (s : Text) : Path where
  root := rootOfSlashes (s.takeWhile (· == '/')).length
  parts := (s.splitOnP (· == '/')).filter isPart

/-- The text of a path; the empty path is written as a dot. -/
def render (p : Path) : Text :=
  match p.root with
  | .relative => if p.parts.isEmpty then selfPart else Text.joined ['/'] p.parts
  | .single => '/' :: Text.joined ['/'] p.parts
  | .double => '/' :: '/' :: Text.joined ['/'] p.parts

/-- Whether a path starts at a root. -/
def isAbsolute (p : Path) : Bool := p.root != .relative

/-- Whether a component holds the null character, which no name on a disk can hold. -/
def hasNull (p : Path) : Bool := p.parts.any (·.contains '\x00')

/-- The path of a place. -/
def ofLocation (l : Location) : Path := ⟨.single, l⟩

/-- A path seen from a base: an absolute path stays, another one continues the base. -/
def under (base p : Path) : Path :=
  if p.isAbsolute then p else ⟨base.root, base.parts ++ p.parts⟩

/-- One component further; `..` goes up and stays at the root. -/
def step (here : Location) (part : Text) : Location :=
  if part = parentPart then here.dropLast else here ++ [part]

/-- The place a path denotes for a reader at `here`. Every `..` takes away the component before it,
whether or not that component exists. -/
def resolve (here : Location) (p : Path) : Location :=
  p.parts.foldl step (if p.isAbsolute then [] else here)

end Path

end PluginMerge
