import PluginMerge.Line

/-!
# Position inside a file

Two trackers follow a file from line to line: the depth of braces and the debug region. The depth is
an integer, since a file may close more braces than it opens.

The start mark of a region takes effect on its own line and the end mark only after its own line has
been judged, so both marked lines belong to the region.
-/

namespace PluginMerge

/-- The depth behind a line. -/
def depthAfter (depth : Int) (l : Text) : Int := depth + Line.braceDelta l

/-- Whether a depth is outside all braces. -/
def atTopLevel (depth : Int) : Bool := depth == 0

/-- Whether the current line lies between debug marks. -/
structure Region where
  inside : Bool := false
  deriving DecidableEq, Repr

namespace Region

/-- The region as it holds for the line itself. -/
def enter (r : Region) (l : Text) : Region := if Line.startsRegion l then ⟨true⟩ else r

/-- The region as it holds behind the line. -/
def leave (r : Region) (l : Text) : Region := if Line.endsRegion l then ⟨false⟩ else r

/-- Whether a line at this position counts: every line does when debugging is on, otherwise those
outside debug regions. -/
def retains (r : Region) (debug : Bool) : Bool := debug || !r.inside

end Region

end PluginMerge
