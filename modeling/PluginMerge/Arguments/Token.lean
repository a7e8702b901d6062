import PluginMerge.Arguments.Misuse
import PluginMerge.Text.Digit

/-!
# Classes of arguments

Before anything is done with a command line, every argument is classed: as an option that is
known, as one that is not, as the separator `--`, or as a word. All arguments behind the separator
are words. An option may be abbreviated as long as only one spelling fits, and a value may be
attached to it.
-/

namespace PluginMerge

/-- An argument with its class. -/
inductive Token where
  | word (content : Text)
  | separator
  /-- A known option, how it was spelt in full, and what is attached to it. -/
  | option (flag : Flag) (spelling : Text) (attached : Option Text)
  /-- Something that looks like an option and is not known. -/
  | stranger (content : Text)
  deriving DecidableEq, Repr

/-- The separator as it is written. -/
def separatorMark : Text := "--".toList

namespace Token

/-- Whether a text is a negative number: digits, or digits and a decimal point with at least one
digit behind it. One final line feed is allowed. -/
def isNegativeNumber (s : Text) : Bool :=
  match Text.withoutFinalNewline s with
  | '-' :: body =>
    match body.dropWhile Text.isDecimalDigit with
    | [] => !body.isEmpty
    | c :: fraction => c == '.' && !fraction.isEmpty && fraction.all Text.isDecimalDigit
  | _ => false

/-- The part of an argument in front of the first equals sign, and the part behind it. -/
def splitValue (s : Text) : Text × Option Text :=
  match s.dropWhile (· != '=') with
  | [] => (s, none)
  | _ :: value => (s.takeWhile (· != '='), some value)

/-- A spelling that an abbreviation fits. -/
structure Fit where
  flag : Flag
  spelling : Text
  attached : Option Text
  deriving DecidableEq, Repr

/-- The spellings that an argument with two dashes fits: those that start with it. -/
def longFits (s : Text) : List Fit :=
  let (start, value) := splitValue s
  (Flag.table.filter fun x => start.isPrefixOf x.1).map fun x => ⟨x.2, x.1, value⟩

/-- The spellings that an argument with one dash fits: the one of its first letter, with the other
letters attached, and those that start with the argument. -/
def shortFits (s : Text) : List Fit :=
  Flag.table.filterMap fun x =>
    if x.1 = s.take 2 then some ⟨x.2, x.1, some (s.drop 2)⟩
    else if s.isPrefixOf x.1 then some ⟨x.2, x.1, none⟩
    else none

/-- The spellings that an argument fits. -/
def fits (s : Text) : List Fit :=
  if separatorMark.isPrefixOf s then longFits s else shortFits s

/-- The option that an argument spells in full, also with a value behind an equals sign. -/
def spelt? (s : Text) : Option Fit :=
  match Flag.ofSpelling? s with
  | some flag => some ⟨flag, s, none⟩
  | none =>
    match splitValue s with
    | (_, none) => none
    | (start, some value) => (Flag.ofSpelling? start).map fun flag => ⟨flag, start, some value⟩

/-- The class of an argument in front of the separator. -/
def classify (s : Text) : Except Misuse Token :=
  if s.head? ≠ some '-' ∨ s.length = 1 then .ok (.word s)
  else
    match spelt? s with
    | some fit => .ok (.option fit.flag fit.spelling fit.attached)
    | none =>
      match fits s with
      | [fit] => .ok (.option fit.flag fit.spelling fit.attached)
      | [] =>
        if isNegativeNumber s || s.contains ' ' then .ok (.word s) else .ok (.stranger s)
      | several => .error (.ambiguous s (several.map Fit.spelling))

/-- The classes of all arguments of a command line. -/
def ofArguments : List Text → Except Misuse (List Token)
  | [] => .ok []
  | s :: rest =>
    if s = separatorMark then .ok (.separator :: rest.map .word)
    else
      match classify s with
      | .error misuse => .error misuse
      | .ok token => (ofArguments rest).map (token :: ·)

end Token

end PluginMerge
