import PluginMerge.Line

/-!
# Directives

A directive is a comment `//OX.INSERT(PluginInfo author pluginUrl sourceUrl)` that is replaced by
an attribute of the plugin's class. Its words stand in the first parenthesised group of the line
and are separated by commas and spaces.

* `Directive.arguments`: the words of a line.
* `Directive.kindAndWords`: what a directive asks for, and its words, or why it is refused.
* `Directive.parse`: the same with the words as a description.
* `Directive.infoAttribute`: the line a directive is replaced by.
-/

namespace PluginMerge

/-- The text that stands for information nobody gave. -/
def unknown : Text := "UNKNOWN".toList

/-- The words of a directive that describe a plugin. -/
structure PluginInfo where
  author : Text
  pluginUrl : Text
  sourceUrl : Text
  deriving DecidableEq, Repr

namespace PluginInfo

/-- The words of a description, in the order in which a directive gives them. -/
def words (info : PluginInfo) : List Text := [info.author, info.pluginUrl, info.sourceUrl]

/-- The description that three words give. -/
def ofWords? : List Text → Option PluginInfo
  | [author, pluginUrl, sourceUrl] => some ⟨author, pluginUrl, sourceUrl⟩
  | _ => none

end PluginInfo

namespace Directive

/-! ## Words -/

/-- The text between the first opening parenthesis and the first closing one behind it. -/
def group? (l : Text) : Option Text :=
  match l.dropWhile (· != '(') with
  | [] => none
  | _ :: rest => if rest.contains ')' then some (rest.takeWhile (· != ')')) else none

/-- The characters between the words of a directive. -/
def isSeparator (c : Char) : Bool := c == ',' || c == ' '

/-- The words of the first parenthesised group; none if there is no group. -/
def arguments (l : Text) : List Text :=
  match group? l with
  | some g => Text.words isSeparator g
  | none => []

/-! ## Kinds -/

/-- The first word of a directive that describes a plugin. -/
def pluginInfoKind : Text := "PluginInfo".toList

/-- The number of words behind the kind. -/
def pluginInfoArity : Nat := 3

/-- Why a line is no directive that could be carried out. -/
inductive Refusal where
  /-- There is no word at all. -/
  | noArguments
  /-- The first word is no kind of directive. -/
  | unknownKind (word : Text)
  /-- The kind is right and the number of words behind it is not. -/
  | wrongCount (count : Nat)
  deriving DecidableEq, Repr

/-- What a directive asks for. -/
inductive Kind where
  | pluginInfo
  /-- The line is dropped. -/
  | nothing
  deriving DecidableEq, Repr

/-- The kind of a line's directive and the words behind it, or the reason for having none. -/
def kindAndWords (l : Text) : Except Refusal (Kind × List Text) :=
  match arguments l with
  | [] => .error .noArguments
  | word :: words =>
    if word = pluginInfoKind then
      if words.length = pluginInfoArity then .ok (.pluginInfo, words)
      else .error (.wrongCount words.length)
    else .error (.unknownKind word)

/-- The directive on a line, or the reason for having none. -/
def parse (l : Text) : Except Refusal PluginInfo :=
  match kindAndWords l with
  | .error reason => .error reason
  | .ok (_, words) =>
    match PluginInfo.ofWords? words with
    | some info => .ok info
    | none => .error (.wrongCount words.length)

/-- A directive that is not refused has the three words of a description. -/
theorem exists_words_of_kindAndWords {l : Text} {read : Kind × List Text}
    (h : kindAndWords l = .ok read) : ∃ info : PluginInfo, read = (.pluginInfo, info.words) := by
  unfold kindAndWords at h
  split at h
  · cases h
  · split at h
    · split at h
      · rename_i words _ _ hLength
        cases h
        match words, hLength with
        | [author, pluginUrl, sourceUrl], _ => exact ⟨⟨author, pluginUrl, sourceUrl⟩, rfl⟩
      · cases h
    · cases h

theorem kindAndWords_of_parse_ok {l : Text} {info : PluginInfo} (h : parse l = .ok info) :
    kindAndWords l = .ok (.pluginInfo, info.words) := by
  unfold parse at h
  cases hRead : kindAndWords l with
  | error reason =>
    rw [hRead] at h
    cases h
  | ok read =>
    obtain ⟨info', rfl⟩ := exists_words_of_kindAndWords hRead
    rw [hRead] at h
    cases h
    rfl

/-- Nothing is refused once the kind and the words are read. -/
theorem kindAndWords_of_parse_error {l : Text} {reason : Refusal} (h : parse l = .error reason) :
    kindAndWords l = .error reason := by
  unfold parse at h
  cases hRead : kindAndWords l with
  | error reason' =>
    rw [hRead] at h
    cases h
    rfl
  | ok read =>
    obtain ⟨info, rfl⟩ := exists_words_of_kindAndWords hRead
    rw [hRead] at h
    cases h

/-- The directive on a line, by the words of the line. -/
theorem parse_eq (l : Text) :
    parse l =
      match arguments l with
      | [] => .error .noArguments
      | kind :: args =>
        if kind = pluginInfoKind then
          match args with
          | [author, pluginUrl, sourceUrl] => .ok ⟨author, pluginUrl, sourceUrl⟩
          | _ => .error (.wrongCount args.length)
        else .error (.unknownKind kind) := by
  unfold parse kindAndWords pluginInfoArity
  cases arguments l with
  | nil => rfl
  | cons kind args =>
    by_cases hKind : kind = pluginInfoKind
    · simp only [if_pos hKind]
      match args with
      | [author, pluginUrl, sourceUrl] => rfl
      | [] => rfl
      | [_] => rfl
      | [_, _] => rfl
      | _ :: _ :: _ :: _ :: _ => simp
    · simp only [if_neg hKind]

/-- The text in front of the first slash; nothing if there is no slash. -/
def indent (l : Text) : Text := if l.contains '/' then l.takeWhile (· != '/') else []

/-! ## The attribute -/

/-- The first four consecutive digits of a text. -/
def fourDigits? : Text → Option Text
  | [] => none
  | c :: rest =>
    let four := (c :: rest).take 4
    if four.length = 4 ∧ four.all Char.isDigit then some four else fourDigits? rest

/-- The identifier of a plugin in its address: the first four consecutive digits. -/
def resourceId (url : Text) : Text := (fourDigits? url).getD unknown

/-- The attribute that describes a plugin, behind the given indentation. -/
def infoAttribute (indent name author version resourceId : Text) : Text :=
  indent ++ "[Info(\"".toList ++ name ++ "\", \"".toList ++ author ++ "\", \"".toList ++ version ++
    "\", ResourceId = ".toList ++ resourceId ++ ")]".toList

end Directive

end PluginMerge
