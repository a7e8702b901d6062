import Mathlib.Data.List.Chain
import PluginMerge.Proofs.Reading

/-!
# Line endings

A line may end with a line feed, a carriage return or both, and every line may choose for itself.
There is one clash: behind a line that ends with a carriage return, an empty line that ends with a
line feed is not seen, since the two characters together are one ending. `Apart` rules it out, and
then nothing else can go wrong: reading gives back the lines, with or without a byte-order mark, and
with or without an ending of the last line.

Only the endings end lines. Form feeds, vertical tabs and the separators of Unicode are characters
like any other, and of several marks at the start only the first one is taken off.

* `written`: the text of lines, each with its own ending.
* `foldNewlines_written`: folding writes every ending as a line feed.
* `SourceFile.ofOctets_written`: reading undoes writing.
-/

namespace PluginMerge

/-- How a line may end. -/
inductive LineEnding where
  | lf
  | crlf
  | cr
  deriving DecidableEq, Repr

def LineEnding.text : LineEnding → Text
  | lf => ['\n']
  | crlf => ['\r', '\n']
  | cr => ['\r']

/-- The text of some lines, each with its own ending behind it. -/
def written (ls : List (Text × LineEnding)) : Text := ls.flatMap fun x => x.1 ++ x.2.text

/-- No line that ends with a carriage return is followed by an empty line that ends with a line
feed. -/
def Apart (ls : List (Text × LineEnding)) : Prop :=
  ls.IsChain fun x y => ¬ (x.2 = .cr ∧ y = ([], .lf))

instance (ls : List (Text × LineEnding)) : Decidable (Apart ls) :=
  inferInstanceAs (Decidable (List.IsChain _ _))

variable {e : LineEnding} {ls : List (Text × LineEnding)} {l rest : Text}

theorem written_cons (l : Text) (e : LineEnding) (ls : List (Text × LineEnding)) :
    written ((l, e) :: ls) = l ++ (e.text ++ written ls) := by
  rw [written, List.flatMap_cons, List.append_assoc, written]

/-! ## Folding -/

/-- A carriage return counts as a line feed unless a line feed follows it. -/
theorem foldNewlines_cons {c : Char} (h : c = '\r' → rest.head? ≠ some '\n') :
    foldNewlines (c :: rest) = (if c = '\r' then '\n' else c) :: foldNewlines rest := by
  rw [foldNewlines]
  rintro tail hc rfl
  exact h hc rfl

theorem foldNewlines_append (hl : '\r' ∉ l) (rest : Text) :
    foldNewlines (l ++ rest) = l ++ foldNewlines rest := by
  induction l with
  | nil => rfl
  | cons c l ih =>
    have hc : c ≠ '\r' := fun heq => hl (heq ▸ List.mem_cons_self)
    have hRest := ih fun hMem => hl (List.mem_cons_of_mem c hMem)
    rw [List.cons_append, foldNewlines_cons fun heq => absurd heq hc, if_neg hc, hRest,
      List.cons_append]

/-- An ending is folded by itself, unless it is a carriage return in front of a line feed. -/
theorem foldNewlines_ending (h : e = .cr → rest.head? ≠ some '\n') :
    foldNewlines (e.text ++ rest) = '\n' :: foldNewlines rest := by
  cases e with
  | lf => exact foldNewlines_cons fun heq => absurd heq (by decide)
  | crlf => rfl
  | cr => exact foldNewlines_cons fun _ => h rfl

theorem head?_line_ne (hl : '\n' ∉ l) (h : (l, e) ≠ ([], .lf)) (rest : Text) :
    (l ++ (e.text ++ rest)).head? ≠ some '\n' := by
  intro hHead
  cases l with
  | cons c l =>
    cases hHead
    exact hl List.mem_cons_self
  | nil =>
    cases e with
    | lf => exact h rfl
    | crlf => cases hHead
    | cr => cases hHead

/-- Folding the endings of lines leaves a line feed for each, whatever they were, if no pair of them
makes one ending. -/
theorem foldNewlines_written {last : Text} (hApart : Apart ls)
    (h : ∀ l ∈ ls.map Prod.fst, '\n' ∉ l ∧ '\r' ∉ l) (hLast : '\n' ∉ last ∧ '\r' ∉ last) :
    foldNewlines (written ls ++ last) = unlines (ls.map Prod.fst) ++ last := by
  induction ls with
  | nil => exact foldNewlines_eq_self hLast.2
  | cons x ls ih =>
    obtain ⟨l, e⟩ := x
    obtain ⟨hNext, hRest⟩ := List.isChain_cons.mp hApart
    have hLines : ∀ m ∈ ls.map Prod.fst, '\n' ∉ m ∧ '\r' ∉ m :=
      fun m hm => h m (List.mem_cons_of_mem l hm)
    -- What follows a carriage return is the next line or, behind the last one, the open line.
    have hHead : e = .cr → (written ls ++ last).head? ≠ some '\n' := by
      intro he
      cases ls with
      | nil => exact fun hHead => hLast.1 (List.mem_of_mem_head? hHead)
      | cons y ls =>
        obtain ⟨m, f⟩ := y
        have hm : (m, f) ≠ ([], .lf) := fun heq => hNext (m, f) rfl ⟨he, heq⟩
        rw [written_cons, List.append_assoc, List.append_assoc]
        exact head?_line_ne (hLines m List.mem_cons_self).1 hm _
    rw [written_cons, List.append_assoc, List.append_assoc,
      foldNewlines_append (h l List.mem_cons_self).2, foldNewlines_ending hHead,
      ih hRest hLines, List.map_cons, unlines_cons, List.append_assoc, List.cons_append]

theorem linesOf_foldNewlines_written {last : Option Text} (hApart : Apart ls)
    (h : ∀ l ∈ ls.map Prod.fst ++ last.toList, '\n' ∉ l ∧ '\r' ∉ l) (hLast : last ≠ some []) :
    linesOf (foldNewlines (written ls ++ last.getD [])) = ls.map Prod.fst ++ last.toList := by
  have hOpen : '\n' ∉ last.getD [] ∧ '\r' ∉ last.getD [] := by
    cases last with
    | none => simp
    | some l => exact h l (by simp)
  rw [foldNewlines_written hApart (fun l hl => h l (List.mem_append_left _ hl)) hOpen]
  exact linesOf_unlines_append (fun l hl => (h l hl).1) hLast

/-! ## Through octets -/

/-- **Reading undoes writing, whatever the lines end with.** The lines hold neither line feeds nor
carriage returns, each but an open last one has an ending of its own, and the open line is not
empty. The octets of the text are read as these lines behind a byte-order mark, and without one if
the text does not itself begin with the character of the mark. -/
theorem SourceFile.ofOctets_written (path : Text) (ls : List (Text × LineEnding))
    (last : Option Text) (h : ∀ l ∈ ls.map Prod.fst ++ last.toList, '\n' ∉ l ∧ '\r' ∉ l)
    (hLast : last ≠ some []) (hApart : Apart ls) :
    let text := written ls ++ last.getD []
    ofOctets path (byteOrderMark ++ Octets.encode text) = ⟨path, ls.map Prod.fst ++ last.toList⟩ ∧
      (text.head? ≠ some markCharacter →
        ofOctets path (Octets.encode text) = ⟨path, ls.map Prod.fst ++ last.toList⟩) := by
  intro text
  have hLines : linesOf (foldNewlines (Octets.decode (Octets.encode text))) =
      ls.map Prod.fst ++ last.toList := by
    rw [Octets.decode_encode]
    exact linesOf_foldNewlines_written hApart h hLast
  constructor
  · rw [ofOctets, withoutMark_append, hLines]
  · intro hMark
    rw [ofOctets, withoutMark_encode hMark, hLines]

/-- Every ending, empty lines behind each of them, separators and a second mark inside lines, and an
open last line; then the same without the line that begins with the mark. -/
theorem SourceFile.ofOctets_written_mixed :
    let ls : List (Text × LineEnding) :=
      [([markCharacter, 'a', '\x0c'], .cr), ([], .crlf), ([], .lf), ("b\u2028c".toList, .cr),
        ([], .cr), ("🔧\u0085".toList, .lf), ([], .lf)]
    let last : Text := "e\x0b\u2029".toList
    Apart ls ∧ (written (ls.drop 1) ++ last).head? ≠ some markCharacter ∧
      ofOctets "A.cs".toList (byteOrderMark ++ Octets.encode (written ls ++ last)) =
        ⟨"A.cs".toList, ls.map Prod.fst ++ [last]⟩ ∧
      ofOctets "A.cs".toList (Octets.encode (written (ls.drop 1) ++ last)) =
        ⟨"A.cs".toList, (ls.drop 1).map Prod.fst ++ [last]⟩ := by
  intro ls last
  have hApart : Apart ls := by decide
  have hMark : (written (ls.drop 1) ++ last).head? ≠ some markCharacter := by decide
  have hMarked := ofOctets_written "A.cs".toList ls (some last) (by decide) (by decide) hApart
  have hPlain :=
    ofOctets_written "A.cs".toList (ls.drop 1) (some last) (by decide) (by decide) (by decide)
  exact ⟨hApart, hMark, hMarked.1, hPlain.2 hMark⟩

end PluginMerge
