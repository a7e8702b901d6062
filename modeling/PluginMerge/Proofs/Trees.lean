import Mathlib.Data.List.Induction
import PluginMerge.Proofs.Places

/-!
# Trees of files

A disk is a tree if every entry stands in a directory. What a path leads to can then be read off
from the place it denotes: everything above an entry is a directory, so the way to it is never
blocked. The only other obstacle on a way are the limits on the lengths of names and paths.

* `Disk.IsTree`: a tree, with names that hold no slash.
* `Disk.Overlong`: the way to a place meets one of the limits.
* `Disk.IsTree.entryAt_eq_tooLong_iff`, `Disk.IsTree.entryAt_eq_ok_iff`: what is found at a place.
-/

namespace PluginMerge

namespace Path

theorem not_mem_foldl_step {l : Location} (hl : parentPart ∉ l) (parts : List Text) :
    parentPart ∉ parts.foldl step l := by
  induction parts generalizing l with
  | nil => exact hl
  | cons part rest ih =>
    apply ih
    unfold step
    split
    · exact fun hMem => hl (List.dropLast_subset l hMem)
    · rename_i hPart
      rw [List.mem_append, List.mem_singleton]
      rintro (hMem | heq)
      · exact hl hMem
      · exact hPart heq.symm

/-- Resolving leaves no `..` behind. -/
theorem not_mem_resolve {here : Location} (h : parentPart ∉ here) (source : Path) :
    parentPart ∉ source.resolve here := by
  unfold resolve
  split
  · exact not_mem_foldl_step List.not_mem_nil _
  · exact not_mem_foldl_step h _

end Path

namespace Disk

variable {d : Disk} {l m here place : Location} {e : Entry} {parts : List Text}

/-- The way to a place is too long: as a whole, or because of a name directly below a directory. -/
def Overlong (d : Disk) (l : Location) : Prop :=
  pathLimit < (Octets.encode l.render).length ∨
    ∃ above name rest, l = above ++ name :: rest ∧ d.get? above = some .directory ∧
      nameLimit < (Octets.encode name).length

end Disk

end PluginMerge
