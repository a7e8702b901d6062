import Mathlib.Data.List.TakeWhile
import PluginMerge.Line

/-!
# The grammar of imports

An import is blanks, the keyword, one blank, something that is not empty and has no opening
parenthesis, and a semicolon at the end. Behind the semicolon one line feed may stand. The part
between blank and semicolon is free otherwise: it may be blank itself, or hold semicolons and line
feeds.

* `Line.isImportTail_iff`: what stands behind the keyword.
* `Line.isImport_iff`: whole lines.
* `Line.isImport_grammar`: imports, and what a line contributes outside all braces.
-/

namespace PluginMerge

variable {l tail : Text}

theorem Text.after?_eq_some_iff {lead s : Text} : after? lead s = some tail ↔ s = lead ++ tail := by
  unfold after?
  constructor
  · intro h
    obtain ⟨hLead, hTail⟩ := Option.ite_none_right_eq_some.mp h
    obtain ⟨rest, rfl⟩ := List.isPrefixOf_iff_prefix.mp hLead
    cases hTail
    rw [List.drop_left]
  · rintro rfl
    rw [if_pos (List.isPrefixOf_iff_prefix.mpr (List.prefix_append lead tail)), List.drop_left]

theorem Text.dropWhile_isBlank_append {w lead : Text} {c : Char} (hw : ∀ x ∈ w, isBlank x = true)
    (hLead : lead.head? = some c) (hc : isBlank c = false) (tail : Text) :
    (w ++ lead ++ tail).dropWhile isBlank = lead ++ tail := by
  obtain ⟨more, rfl⟩ := List.head?_eq_some_iff.mp hLead
  rw [List.append_assoc, List.dropWhile_append_of_pos hw]
  exact List.dropWhile_cons_of_neg (by simp [hc])

/-- A text that starts with no blank is found behind any number of blanks. -/
theorem Text.after?_dropWhile_isBlank_iff {lead s : Text} {c : Char} (hLead : lead.head? = some c)
    (hc : isBlank c = false) :
    after? lead (s.dropWhile isBlank) = some tail ↔
      ∃ w, s = w ++ lead ++ tail ∧ ∀ x ∈ w, isBlank x = true := by
  rw [Text.after?_eq_some_iff]
  constructor
  · intro h
    refine ⟨s.takeWhile isBlank, ?_, fun x hx => List.mem_takeWhile_imp hx⟩
    rw [List.append_assoc, ← h, List.takeWhile_append_dropWhile]
  · rintro ⟨w, rfl, hw⟩
    exact dropWhile_isBlank_append hw hLead hc tail

theorem Text.withoutFinalNewline_concat (s : Text) : withoutFinalNewline (s ++ ['\n']) = s := by
  rw [withoutFinalNewline, if_pos (by simp), List.dropLast_concat]

namespace Line

/-- Blanks, the keyword, a blank, something without an opening parenthesis, and a semicolon. -/
def ImportForm (l : Text) : Prop :=
  ∃ w c body, l = w ++ importKeyword ++ c :: body ++ [';'] ∧ (∀ x ∈ w, Text.isBlank x = true) ∧
    Text.isBlank c = true ∧ body ≠ [] ∧ '(' ∉ body

/-- Behind the keyword an import has a blank, a name without an opening parenthesis, and a semicolon
at the very end. -/
theorem isImportTail_iff :
    isImportTail tail = true ↔
      ∃ c body, tail = c :: body ++ [';'] ∧ Text.isBlank c = true ∧ body ≠ [] ∧ '(' ∉ body := by
  cases tail with
  | nil => simp [isImportTail]
  | cons c rest =>
    constructor
    · intro h
      simp only [isImportTail, Bool.and_eq_true, beq_iff_eq, Bool.not_eq_true',
        List.isEmpty_eq_false_iff, List.contains_eq_mem, decide_eq_false_iff_not] at h
      obtain ⟨⟨⟨hBlank, hLast⟩, hNil⟩, hOpen⟩ := h
      obtain ⟨body, rfl⟩ := List.getLast?_eq_some_iff.mp hLast
      rw [List.dropLast_concat] at hNil hOpen
      exact ⟨c, body, rfl, hBlank, hNil, hOpen⟩
    · rintro ⟨d, body, heq, hBlank, hNil, hOpen⟩
      cases heq
      simp [isImportTail, hBlank, hNil, hOpen]

theorem head?_importKeyword : importKeyword.head? = some 'u' := rfl

theorem after?_importKeyword_iff :
    Text.after? importKeyword (l.dropWhile Text.isBlank) = some tail ↔
      ∃ w, l = w ++ importKeyword ++ tail ∧ ∀ x ∈ w, Text.isBlank x = true :=
  Text.after?_dropWhile_isBlank_iff head?_importKeyword (by decide)

/-- A single line feed at the end of an import does not matter. -/
theorem isImport_iff_withoutFinalNewline :
    isImport l = true ↔ ImportForm (Text.withoutFinalNewline l) := by
  constructor
  · intro h
    unfold isImport at h
    split at h
    · rename_i tail hAfter
      obtain ⟨w, hLine, hw⟩ := after?_importKeyword_iff.mp hAfter
      obtain ⟨c, body, rfl, hc, hBody, hOpen⟩ := isImportTail_iff.mp h
      exact ⟨w, c, body, hLine.trans (List.append_assoc _ _ _).symm, hw, hc, hBody, hOpen⟩
    · cases h
  · rintro ⟨w, c, body, hLine, hw, hc, hBody, hOpen⟩
    have hAfter := after?_importKeyword_iff.mpr ⟨w, hLine.trans (List.append_assoc _ _ _), hw⟩
    rw [isImport, hAfter]
    exact isImportTail_iff.mpr ⟨c, body, rfl, hc, hBody, hOpen⟩

theorem ImportForm.getLast? (h : ImportForm l) : l.getLast? = some ';' := by
  obtain ⟨w, c, body, rfl, -⟩ := h
  exact List.getLast?_concat

theorem isImport_iff :
    isImport l = true ↔ ∃ core, (l = core ∨ l = core ++ ['\n']) ∧ ImportForm core := by
  rw [isImport_iff_withoutFinalNewline]
  constructor
  · intro h
    refine ⟨_, ?_, h⟩
    unfold Text.withoutFinalNewline
    split
    · rename_i hLast
      obtain ⟨core, rfl⟩ := List.getLast?_eq_some_iff.mp hLast
      exact Or.inr (by rw [List.dropLast_concat])
    · exact Or.inl rfl
  · rintro ⟨core, rfl | rfl, h⟩
    · rw [Text.withoutFinalNewline, h.getLast?]
      exact h
    · rw [Text.withoutFinalNewline_concat]
      exact h

theorem head?_dropWhile_of_isImport (h : isImport l = true) :
    (l.dropWhile Text.isBlank).head? = some 'u' := by
  obtain ⟨core, hLine, w, c, body, rfl, hw, -⟩ := isImport_iff.mp h
  have hForm : ∃ rest, l = w ++ importKeyword ++ rest := by
    rcases hLine with rfl | rfl
    · exact ⟨_, List.append_assoc _ _ _⟩
    · exact ⟨_, by rw [List.append_assoc, List.append_assoc]⟩
  obtain ⟨rest, rfl⟩ := hForm
  rw [Text.dropWhile_isBlank_append hw head?_importKeyword (by decide)]
  rfl

theorem head?_dropWhile_of_isNamespace (h : isNamespace l = true) :
    (l.dropWhile Text.isBlank).head? = some 'n' := by
  obtain ⟨rest, hRest⟩ := List.isPrefixOf_iff_prefix.mp h
  have hSpaces : ∀ x ∈ l.takeWhile (· == ' '), Text.isBlank x = true := by
    intro x hx
    have heq : x = ' ' := by simpa using List.mem_takeWhile_imp hx
    rw [heq]
    decide
  rw [← List.takeWhile_append_dropWhile (p := (· == ' ')) (l := l), ← hRest,
    List.dropWhile_append_of_pos hSpaces]
  rfl

/-- No line is both: an import begins with another letter than a declaration. -/
theorem not_isNamespace_of_isImport (h : isImport l = true) : isNamespace l = false := by
  rw [← Bool.not_eq_true]
  intro hNamespace
  have hHead := head?_dropWhile_of_isNamespace hNamespace
  rw [head?_dropWhile_of_isImport h] at hHead
  exact absurd hHead (by decide)

/-- Since no import is a declaration, the order of the two tests does not matter. -/
theorem topLevel_eq_importing_iff : topLevel l = .importing ↔ isImport l = true := by
  constructor
  · intro h
    unfold topLevel at h
    split_ifs at h with hNamespace hImport
    exact hImport
  · intro h
    rw [topLevel, not_isNamespace_of_isImport h, h]
    rfl

/-- **The grammar of imports.** A line is an import exactly if it has the form of one, with or
without one line feed behind it. No import declares a namespace, so outside all braces the lines of
this form are the ones that are taken as imports. -/
theorem isImport_grammar (l : Text) :
    (isImport l = true ↔ ∃ core, (l = core ∨ l = core ++ ['\n']) ∧ ImportForm core) ∧
      ¬ (isImport l = true ∧ isNamespace l = true) ∧
      (topLevel l = .importing ↔ ∃ core, (l = core ∨ l = core ++ ['\n']) ∧ ImportForm core) := by
  refine ⟨isImport_iff, ?_, topLevel_eq_importing_iff.trans isImport_iff⟩
  rintro ⟨hImport, hNamespace⟩
  rw [not_isNamespace_of_isImport hImport] at hNamespace
  cases hNamespace

/-- Between the first blank and the semicolon something has to stand, and a blank is enough. -/
example :
    isImport "using ;".toList = false ∧ isImport "using  ;".toList = true ∧
      isImport "\u3000using\n;;\n".toList = true ∧ isImport "using A;\n\n".toList = false := by
  decide

end Line

end PluginMerge
