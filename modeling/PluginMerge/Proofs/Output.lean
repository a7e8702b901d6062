import PluginMerge.Proofs.Material

/-!
# Where the characters of an output come from

A line between braces is kept as it is, or it is a directive and is replaced by an attribute. The
attribute is put together from words of the line, the name and the version of the plugin, and fixed
text. So a character that none of these holds is in no output, whatever the line says.

* `Directive.arguments_of_parse`: the words of a directive that can be carried out.
* `Line.mem_of_mem_output`: the characters of an output, and `Line.not_mem_output` what is not
  among them.
-/

namespace PluginMerge

variable {l w x : Text} {c : Char}

theorem mem_of_mem_splitOnP {p : Char → Bool} {s : Text} (hw : w ∈ s.splitOnP p) (hc : c ∈ w) :
    c ∈ s := by
  induction s generalizing w with
  | nil =>
    rw [List.splitOnP_nil, List.mem_singleton] at hw
    exact hw ▸ hc
  | cons d rest ih =>
    rw [List.splitOnP_cons_eq_if_modifyHead] at hw
    split at hw
    · rcases List.mem_cons.mp hw with rfl | hw
      · cases hc
      · exact List.mem_cons_of_mem d (ih hw hc)
    · obtain ⟨head, tail, hPieces⟩ := List.exists_cons_of_ne_nil (List.splitOnP_ne_nil p rest)
      rw [hPieces] at hw ih
      rcases List.mem_cons.mp hw with rfl | hw
      · rcases List.mem_cons.mp hc with rfl | hc
        · exact List.mem_cons_self
        · exact List.mem_cons_of_mem d (ih List.mem_cons_self hc)
      · exact List.mem_cons_of_mem d (ih (List.mem_cons_of_mem head hw) hc)

namespace Directive

theorem group?_isInfix {g : Text} (h : group? l = some g) : g <:+: l := by
  unfold group? at h
  split at h
  · cases h
  · rename_i d rest hRest
    obtain ⟨-, hg⟩ := Option.ite_none_right_eq_some.mp h
    cases hg
    have hSuffix : d :: rest <:+ l := hRest ▸ List.dropWhile_suffix _
    have hTail : rest <:+ l := (List.suffix_cons d rest).trans hSuffix
    exact (List.takeWhile_prefix _).isInfix.trans hTail.isInfix

theorem mem_of_mem_arguments (hw : w ∈ arguments l) (hc : c ∈ w) : c ∈ l := by
  unfold arguments at hw
  split at hw
  · rename_i g hGroup
    have hPiece := (List.mem_filter.mp hw).1
    exact (group?_isInfix hGroup).subset (mem_of_mem_splitOnP hPiece hc)
  · cases hw

/-- The words of an accepted directive are the kind and the three parts of the description. -/
theorem arguments_of_parse {info : PluginInfo} (h : parse l = .ok info) :
    arguments l = [pluginInfoKind, info.author, info.pluginUrl, info.sourceUrl] := by
  rw [parse_eq] at h
  split at h
  · cases h
  · rename_i kind args hArguments
    split at h
    · rename_i hKind
      split at h
      · cases h
        rw [hArguments, hKind]
      · cases h
    · cases h

theorem fourDigits?_isInfix {url four : Text} (h : fourDigits? url = some four) :
    four <:+: url := by
  induction url with
  | nil => cases h
  | cons d rest ih =>
    rw [fourDigits?] at h
    split at h
    · cases h
      exact (List.take_prefix 4 (d :: rest)).isInfix
    · exact (ih h).trans (List.suffix_cons d rest).isInfix

theorem mem_of_mem_resourceId {url : Text} (hc : c ∈ resourceId url) : c ∈ url ∨ c ∈ unknown := by
  unfold resourceId at hc
  cases hDigits : fourDigits? url with
  | none => exact Or.inr (by simpa [hDigits] using hc)
  | some four =>
    rw [hDigits] at hc
    exact Or.inl ((fourDigits?_isInfix hDigits).subset hc)

/-- The attribute around empty words and an unknown identifier. -/
def attributeFrame : Text := infoAttribute [] [] [] [] unknown

theorem mem_of_mem_infoAttribute {indent name author version resourceId : Text}
    (hc : c ∈ infoAttribute indent name author version resourceId) :
    c ∈ indent ∨ c ∈ name ∨ c ∈ author ∨ c ∈ version ∨ c ∈ resourceId ∨ c ∈ attributeFrame := by
  simp only [attributeFrame, infoAttribute, List.mem_append] at hc ⊢
  rcases hc with ((((((((h | h) | h) | h) | h) | h) | h) | h) | h) | h <;>
    simp only [h, true_or, or_true]

theorem mem_of_mem_indent (hc : c ∈ indent l) : c ∈ l := by
  unfold indent at hc
  split at hc
  · exact (List.takeWhile_prefix _).subset hc
  · cases hc

end Directive

/-- A character of an output is one of the line, of the name or version, or of the fixed text. -/
theorem Line.mem_of_mem_output {name version : Text} (hx : x ∈ Line.output name version l)
    (hc : c ∈ x) : c ∈ l ∨ c ∈ name ∨ c ∈ version ∨ c ∈ Directive.attributeFrame := by
  unfold Line.output at hx
  split at hx
  · split at hx
    · rename_i info hParse
      rw [List.mem_singleton] at hx
      have hArguments := Directive.arguments_of_parse hParse
      have hAuthor : c ∈ info.author → c ∈ l :=
        Directive.mem_of_mem_arguments (by simp [hArguments])
      have hUrl : c ∈ info.pluginUrl → c ∈ l :=
        Directive.mem_of_mem_arguments (by simp [hArguments])
      have hUnknown : c ∈ unknown → c ∈ Directive.attributeFrame := by
        intro hc
        simp only [Directive.attributeFrame, Directive.infoAttribute, List.mem_append]
        exact Or.inl (Or.inr hc)
      rcases Directive.mem_of_mem_infoAttribute (hx ▸ hc) with h | h | h | h | h | h
      · exact Or.inl (Directive.mem_of_mem_indent h)
      · exact Or.inr (Or.inl h)
      · exact Or.inl (hAuthor h)
      · exact Or.inr (Or.inr (Or.inl h))
      · rcases Directive.mem_of_mem_resourceId h with h | h
        · exact Or.inl (hUrl h)
        · exact Or.inr (Or.inr (Or.inr (hUnknown h)))
      · exact Or.inr (Or.inr (Or.inr h))
    · cases hx
  · rw [List.mem_singleton] at hx
    exact Or.inl (hx ▸ hc)

/-- A character that is in none of the ingredients is not in the output. -/
theorem Line.not_mem_output {name version : Text} (hl : c ∉ l) (hName : c ∉ name)
    (hVersion : c ∉ version) (hFrame : c ∉ Directive.attributeFrame)
    (hx : x ∈ Line.output name version l) : c ∉ x := by
  intro hc
  rcases Line.mem_of_mem_output hx hc with h | h | h | h
  · exact hl h
  · exact hName h
  · exact hVersion h
  · exact hFrame h

end PluginMerge
