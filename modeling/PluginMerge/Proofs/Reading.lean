import Mathlib.Data.List.Infix
import PluginMerge.Proofs.Encoding
import PluginMerge.Source.File

/-!
# Reading back what was written

Lines are written as octets with a line feed behind each, and read back as the same lines. The text
must not begin with a byte-order mark, and no line may hold a line feed or a carriage return.

* `unlines`: a line feed behind each line.
* `linesOf_unlines_append`: cutting at line feeds undoes it, also with an open line at the end.
* `withoutMark_append`, `withoutMark_encode`: a mark is taken off, and a text without one stays.
* `SourceFile.lines_ofOctets_unlines`: all of it together.
-/

namespace PluginMerge

/-- The text of some lines, with a line feed behind each. -/
def unlines (ls : List Text) : Text := ls.flatMap (· ++ ['\n'])

@[simp] theorem unlines_nil : unlines [] = [] := rfl

@[simp] theorem unlines_cons (l : Text) (ls : List Text) :
    unlines (l :: ls) = l ++ '\n' :: unlines ls := by
  simp [unlines]

@[simp] theorem unlines_append (ls ms : List Text) :
    unlines (ls ++ ms) = unlines ls ++ unlines ms :=
  List.flatMap_append

theorem mem_unlines {c : Char} {ls : List Text} (h : c ∈ unlines ls) :
    c = '\n' ∨ ∃ l ∈ ls, c ∈ l := by
  obtain ⟨l, hl, hc⟩ := List.mem_flatMap.mp h
  rcases List.mem_append.mp hc with hc | hc
  · exact Or.inr ⟨l, hl, hc⟩
  · exact Or.inl (List.mem_singleton.mp hc)

/-! ## Cutting at line feeds -/

/-- Lines and a last piece without a line feed are found again by splitting at line feeds. -/
theorem splitOnP_unlines_append {ls : List Text} {last : Text} (h : ∀ l ∈ ls, '\n' ∉ l)
    (hLast : '\n' ∉ last) : (unlines ls ++ last).splitOnP (· == '\n') = ls ++ [last] := by
  have hOpen : ∀ l : Text, '\n' ∉ l → ∀ c ∈ l, (c == '\n') = false := by
    intro l hl c hc
    have hne : c ≠ '\n' := fun heq => hl (heq ▸ hc)
    simpa using hne
  induction ls with
  | nil => exact List.splitOnP_eq_singleton (hOpen last hLast)
  | cons l rest ih =>
    rw [unlines_cons, List.append_assoc, List.cons_append,
      List.splitOnP_append_cons_of_forall_mem (hOpen l (h l List.mem_cons_self)) '\n' rfl,
      ih fun m hm => h m (List.mem_cons_of_mem l hm), List.cons_append]

/-- Written lines are read back, the last one with or without its line feed, but an empty last piece
is no line. -/
theorem linesOf_unlines_append {ls : List Text} {last : Option Text}
    (h : ∀ l ∈ ls ++ last.toList, '\n' ∉ l) (hLast : last ≠ some []) :
    linesOf (unlines ls ++ last.getD []) = ls ++ last.toList := by
  have hClosed : ∀ l ∈ ls, '\n' ∉ l := fun l hl => h l (List.mem_append_left _ hl)
  unfold linesOf
  cases last with
  | none =>
    rw [Option.getD_none, splitOnP_unlines_append hClosed List.not_mem_nil]
    simp
  | some l =>
    have hl : l ≠ [] := fun heq => hLast (congrArg some heq)
    rw [Option.getD_some, splitOnP_unlines_append hClosed (h l (by simp))]
    simp [hl]

theorem foldNewlines_eq_self {s : Text} (h : '\r' ∉ s) : foldNewlines s = s := by
  fun_induction foldNewlines s with
  | case1 => rfl
  | case2 rest ih => exact absurd List.mem_cons_self h
  | case3 c rest _ ih =>
    have hc : c ≠ '\r' := fun heq => h (heq ▸ List.mem_cons_self)
    rw [if_neg hc, ih fun hMem => h (List.mem_cons_of_mem c hMem)]

/-! ## Through octets -/

/-- The character whose octets are the byte-order mark. -/
def markCharacter : Char := Char.ofNat 0xFEFF

theorem utf8EncodeChar_markCharacter : String.utf8EncodeChar markCharacter = byteOrderMark := by
  decide

theorem withoutMark_append (content : Octets) :
    withoutMark (byteOrderMark ++ content) = content := by
  cases content with
  | nil => rfl
  | cons b rest =>
    have hLonger : (byteOrderMark ++ b :: rest).isPrefixOf byteOrderMark = false := by
      simp [byteOrderMark, List.isPrefixOf]
    have hMark : byteOrderMark.isPrefixOf (byteOrderMark ++ b :: rest) = true :=
      List.isPrefixOf_iff_prefix.mpr (List.prefix_append _ _)
    rw [withoutMark, hLonger, hMark]
    rfl

/-- The beginnings of the byte-order mark decode to nothing, to one invalid unit, or to the mark. -/
theorem units_of_isPrefix_mark {content : Octets} (h : content <+: byteOrderMark) :
    content = [] ∨ Octets.units content = [none] ∨
      Octets.units content = [some markCharacter] := by
  have hAll : ∀ content ∈ byteOrderMark.inits, content = [] ∨ Octets.units content = [none] ∨
      Octets.units content = [some markCharacter] := by decide
  exact hAll content ((List.mem_inits _ _).mpr h)

theorem head?_of_units_encode {s : Text} {u : Option Char} {rest : List (Option Char)}
    (h : Octets.units (Octets.encode s) = u :: rest) : s.head?.map some = some u := by
  rw [← List.head?_map, ← Octets.units_encode, h, List.head?_cons]

theorem withoutMark_encode {s : Text} (h : s.head? ≠ some markCharacter) :
    withoutMark (Octets.encode s) = Octets.encode s := by
  -- The units of the octets are the characters of the text, so none of them is broken and the first
  -- one is not the mark.
  have hMarked : ∀ rest, Octets.units (Octets.encode s) ≠ some markCharacter :: rest :=
    fun rest hUnits => h (by simpa using head?_of_units_encode hUnits)
  unfold withoutMark
  split
  · rename_i hPrefix
    rcases units_of_isPrefix_mark (List.isPrefixOf_iff_prefix.mp hPrefix) with
      hNil | hBroken | hMark
    · exact hNil.symm
    · exact absurd (head?_of_units_encode hBroken) (by simp)
    · exact absurd hMark (hMarked [])
  · split
    · rename_i hPrefix
      obtain ⟨rest, hRest⟩ := List.isPrefixOf_iff_prefix.mp hPrefix
      refine absurd ?_ (hMarked (Octets.units rest))
      rw [← hRest, ← utf8EncodeChar_markCharacter]
      exact Octets.unitsFrom_utf8EncodeChar markCharacter rest
    · rfl

/-- Lines that are written with line feeds are read back as they were. -/
theorem SourceFile.lines_ofOctets_unlines (path : Text) {ls : List Text}
    (hMark : (unlines ls).head? ≠ some markCharacter) (h : ∀ l ∈ ls, '\n' ∉ l ∧ '\r' ∉ l) :
    (ofOctets path (Octets.encode (unlines ls))).lines = ls := by
  have hReturn : '\r' ∉ unlines ls := by
    intro hMem
    rcases mem_unlines hMem with heq | ⟨m, hm, hMem⟩
    · exact absurd heq (by decide)
    · exact (h m hm).2 hMem
  have hCut : linesOf (unlines ls ++ (none : Option Text).getD []) =
      ls ++ (none : Option Text).toList :=
    linesOf_unlines_append (fun l hl => (h l (by simpa using hl)).1) (by simp)
  rw [ofOctets, withoutMark_encode hMark, Octets.decode_encode, foldNewlines_eq_self hReturn]
  simpa using hCut

end PluginMerge
