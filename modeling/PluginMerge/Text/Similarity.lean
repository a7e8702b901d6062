import PluginMerge.Text.Basic

/-!
# Similar texts

Two texts are compared by the characters they have in common in the same order: the longest block
that stands in both, then, in the same way, what lies in front of the block and what lies behind it.
The score of two texts is twice the number of these characters, divided by the sum of the lengths.

* `Text.matched`: the number of common characters.
* `Text.closest?`: the best of some texts, if it is good enough.
-/

namespace PluginMerge.Text

/-- The number of characters that two texts share at their start. -/
def commonStart : Text → Text → Nat
  | a :: as, b :: bs => if a = b then commonStart as bs + 1 else 0
  | _, _ => 0

/-- A block that two texts have in common: where it starts in each, and its length. -/
structure Block where
  left : Nat
  right : Nat
  size : Nat
  deriving DecidableEq, Repr

/-- The longer of two blocks; of two equal ones the first. -/
def Block.longer (best other : Block) : Block := if best.size < other.size then other else best

/-- The places where a block can start: each with its number, counted on from `n`, and the text from
there on. -/
def starts (n : Nat) : Text → List (Nat × Text)
  | [] => []
  | c :: rest => (n, c :: rest) :: starts (n + 1) rest

/-- The longest common block of two texts. Of several it is the one that starts first in `a`, and
then in `b`. -/
def longestBlock (a b : Text) : Block :=
  let right := starts 0 b
  (starts 0 a).foldl
    (fun best x => right.foldl (fun best y => best.longer ⟨x.1, y.1, commonStart x.2 y.2⟩) best)
    ⟨0, 0, 0⟩

/-- The number of characters in the longest common block and in the blocks in front of it and behind
it. -/
def matched (a b : Text) : Nat :=
  match longestBlock a b with
  | ⟨left, right, size⟩ =>
    if 0 < size ∧ left + size ≤ a.length then
      matched (a.take left) (b.take right) + size +
        matched (a.drop (left + size)) (b.drop (right + size))
    else 0
termination_by a.length
decreasing_by
  · simp only [List.length_take]
    omega
  · simp only [List.length_drop]
    omega

/-- A text beside the one it is compared with: the common characters and the sum of the lengths. -/
structure Candidate where
  content : Text
  common : Nat
  total : Nat
  deriving DecidableEq, Repr

namespace Candidate

/-- The comparison of a known text with a word. -/
def of (word known : Text) : Candidate := ⟨known, matched known word, known.length + word.length⟩

/-- Whether the score is at least three fifths. -/
def isClose (c : Candidate) : Bool := decide (3 * c.total ≤ 10 * c.common)

/-- Whether a candidate is at least as good as another: by score, and of equal scores by the order
of the texts. -/
def atLeast (c d : Candidate) : Bool :=
  let left := c.common * d.total
  let right := d.common * c.total
  decide (right < left) || (left == right && Text.le d.content c.content)

end Candidate

/-- The best of the known texts that are close to a word. -/
def closest? (known : List Text) (word : Text) : Option Text :=
  let close := (known.map (Candidate.of word)).filter Candidate.isClose
  (close.foldl
    (fun best c =>
      match best with
      | some b => if c.atLeast b then some c else some b
      | none => some c) none).map Candidate.content

end PluginMerge.Text
