import PluginMerge.Text.Blank

/-!
# Lines of source text

What one line says, judged from its raw characters. Nothing is tokenized: a brace or a mark inside a
string literal or a comment counts like any other.

* `Line.braceDelta`: opening minus closing braces.
* `Line.isNamespace`, `Line.namespaceName`: declarations of a namespace.
* `Line.isImport`: lines of the form `using …;`, but not the statement `using (…)`.
* `Line.topLevel`: what a line contributes outside all braces.
-/

namespace PluginMerge.Line

/-! ## Marks -/

/-- A line with this mark switches debugging on for the whole run. -/
def debugEnableMark : Text := "//OX.DEBUGENABLE".toList

/-- A line with this mark opens a debug region. -/
def debugStartMark : Text := "//OX.DEBUGSTART".toList

/-- A line with this mark closes a debug region. -/
def debugEndMark : Text := "//OX.DEBUGEND".toList

/-- A line with this mark holds a directive. -/
def insertMark : Text := "//OX.INSERT(".toList

/-- Whether the line switches debugging on. -/
def enablesDebug (l : Text) : Bool := Text.includes debugEnableMark l

/-- Whether the line opens a debug region. -/
def startsRegion (l : Text) : Bool := Text.includes debugStartMark l

/-- Whether the line closes a debug region. -/
def endsRegion (l : Text) : Bool := Text.includes debugEndMark l

/-- Whether the line holds a directive. -/
def isDirective (l : Text) : Bool := Text.includes insertMark l

/-! ## Braces -/

/-- Opening minus closing braces. -/
def braceDelta (l : Text) : Int := (l.count '{' : Int) - (l.count '}' : Int)

/-! ## Namespaces -/

/-- The word that declares a namespace, with the space after it. -/
def namespaceKeyword : Text := "namespace ".toList

/-- Whether the line declares a namespace; only spaces may stand in front. -/
def isNamespace (l : Text) : Bool := namespaceKeyword.isPrefixOf (l.dropWhile (· == ' '))

/-- The characters around a declaration that are not part of it. -/
def isFrame (c : Char) : Bool := c == ' ' || c == '{'

/-- The name a declaration gives: what stands behind the keyword, without the spaces and opening
braces around the declaration. -/
def namespaceName (l : Text) : Text := (Text.trim isFrame l).drop namespaceKeyword.length

/-! ## Imports -/

/-- The word that starts an import. -/
def importKeyword : Text := "using".toList

/-- Whether a text is the part of an import behind its keyword: a blank, something without an
opening parenthesis, and a semicolon at the end. -/
def isImportTail : Text → Bool
  | [] => false
  | c :: rest =>
    Text.isBlank c && rest.getLast? == some ';' && !rest.dropLast.isEmpty &&
      !rest.dropLast.contains '('

/-- Whether the line is an import: blanks, the keyword, and the tail of an import. One final line
feed is allowed. -/
def isImport (l : Text) : Bool :=
  match Text.after? importKeyword ((Text.withoutFinalNewline l).dropWhile Text.isBlank) with
  | some tail => isImportTail tail
  | none => false

/-! ## Outside all braces -/

/-- What a line contributes when it stands outside all braces. -/
inductive TopLevel where
  /-- It declares the namespace of this name. -/
  | declaration (name : Text)
  /-- It is an import. -/
  | importing
  /-- It contributes nothing. -/
  | nothing
  deriving DecidableEq, Repr

/-- What the line contributes outside all braces. A declaration takes precedence. -/
def topLevel (l : Text) : TopLevel :=
  if isNamespace l then .declaration (namespaceName l)
  else if isImport l then .importing
  else .nothing

end PluginMerge.Line
