import PluginMerge.Log.Logged
import PluginMerge.Source.File

/-!
# The version of the program

The program finds its own version in the manifest of its project: the first line that gives a quoted
value to `version`. Without one it uses the version it was installed with. The commit is what the
revision control printed.
-/

namespace PluginMerge

/-- The word for a version or commit that cannot be found. -/
def unknownVersion : Text := "unknown".toList

namespace Manifest

/-- The characters around a value. -/
def isQuote (c : Char) : Bool := c == '\x22' || c == '\x27'

/-- The text behind blanks. -/
def skipBlanks (s : Text) : Text := s.dropWhile Text.isBlank

/-- The quoted value at the start of a text: not empty, and up to the next quote of either kind. -/
def quotedValue? : Text → Option Text
  | [] => none
  | c :: rest =>
    let value := rest.takeWhile (!isQuote ·)
    if isQuote c && !value.isEmpty && rest.any isQuote then some value else none

/-- The value that the start of a text gives to `version`. -/
def versionHere? (s : Text) : Option Text := do
  let s ← Text.after? "version".toList (skipBlanks s)
  let s ← Text.after? "=".toList (skipBlanks s)
  quotedValue? (skipBlanks s)

/-- The value given to `version` by the first line that does, in a text that starts a line or not.
-/
def versionFrom? (lineStart : Bool) : Text → Option Text
  | [] => none
  | c :: rest =>
    match if lineStart then versionHere? (c :: rest) else none with
    | some value => some value
    | none => versionFrom? (c == '\n') rest

/-- The value given to `version` by the first line of a text that does. -/
def version? (s : Text) : Option Text := versionFrom? true s

end Manifest

/-- The version in a manifest. The result is `none` if the manifest is no well-formed text. -/
def manifestVersion (manifest : Option Octets) : Option Text :=
  match manifest with
  | none => some unknownVersion
  | some content =>
    (Octets.decodeStrict? content).map fun s =>
      (Manifest.version? (foldNewlines s)).getD unknownVersion

/-- What the revision control answers when asked for the commit. -/
inductive Revision where
  /-- It printed this. -/
  | printed (output : Text)
  /-- It failed or is not there. -/
  | unavailable
  deriving DecidableEq, Repr

/-- The commit that an answer names. -/
def Revision.commit : Revision → Text
  | printed output => Text.strip output
  | unavailable => unknownVersion

/-- The version and commit of the program. -/
structure Tool where
  version : Text
  commit : Text
  deriving DecidableEq, Repr

namespace Tool

/-- The program as its manifest, its installation and the revision control describe it. The result
is `none` if the manifest is no well-formed text. -/
def identify (manifest : Option Octets) (installed : Option Text) (revision : Revision) :
    Option Tool :=
  (manifestVersion manifest).map fun version =>
    { version := if version = unknownVersion then installed.getD version else version
      commit := revision.commit }

/-- Version and commit in one text. -/
def render (t : Tool) : Text := t.version ++ " (".toList ++ t.commit ++ ")".toList

/-- The event of a look-up. -/
def identified (t : Tool) : Event := .toolIdentified t.version t.commit

end Tool

end PluginMerge
