import PluginMerge.Path
import PluginMerge.Source.Octets

/-!
# Disks

A disk maps places to files and directories. The root is always a directory. `Disk.follow` goes along
a path as an operating system does: every component before the last has to be a directory, `..` goes
to the directory above the one reached, and names and paths have a greatest length.

* `Disk.get?`, `Disk.put`, `Disk.remove`: single places.
* `Disk.follow`: the place that a path leads to.
* `Disk.entryAt`, `Disk.openForWriting`: what reading and writing find there.
-/

namespace PluginMerge

/-- What stands at a place. -/
inductive Entry where
  | file (content : Octets)
  | directory
  deriving DecidableEq, Repr

/-- A disk: the entries below the root, one for each place. -/
structure Disk where
  entries : List (Location × Entry) := []
  distinct : (entries.map Prod.fst).Nodup := by decide
  deriving DecidableEq, Repr

/-- Why a path does not lead to what is looked for. -/
inductive PathFault where
  /-- Something on the way, or at its end, does not exist. -/
  | missing
  /-- A component on the way is a file. -/
  | notDirectory
  /-- The path leads to a directory instead of a file. -/
  | isDirectory
  /-- A component on the way, or the whole path, has too many octets. -/
  | tooLong
  deriving DecidableEq, Repr

namespace PathFault

/-- The number and wording of a fault. -/
def message : PathFault → Text
  | missing => "[Errno 2] No such file or directory".toList
  | notDirectory => "[Errno 20] Not a directory".toList
  | isDirectory => "[Errno 21] Is a directory".toList
  | tooLong => "[Errno 36] File name too long".toList

end PathFault

namespace Disk

/-- The entry at a place. -/
def get? (d : Disk) (l : Location) : Option Entry :=
  if l.isEmpty then some .directory else d.entries.lookup l

/-- Entries with another one at a place. -/
def replaced (l : Location) (e : Entry) (entries : List (Location × Entry)) :
    List (Location × Entry) :=
  entries.map fun x => if x.1 = l then (l, e) else x

/-- Replacing an entry keeps the places. -/
theorem keys_replaced (l : Location) (e : Entry) (entries : List (Location × Entry)) :
    (replaced l e entries).map Prod.fst = entries.map Prod.fst := by
  simp only [replaced, List.map_map]
  refine List.map_congr_left fun x _ => ?_
  by_cases h : x.1 = l <;> simp [h]

theorem distinct_append {entries : List (Location × Entry)} {l : Location} {e : Entry}
    (h : (entries.map Prod.fst).Nodup) (hl : l ∉ entries.map Prod.fst) :
    ((entries ++ [(l, e)]).map Prod.fst).Nodup := by
  rw [List.map_append, List.nodup_append]
  refine ⟨h, by simp, fun a ha b hb => ?_⟩
  rw [List.map_cons, List.map_nil, List.mem_singleton] at hb
  rintro rfl
  cases hb
  exact hl ha

/-- The disk with an entry at a place, instead of the one there or behind the others. -/
def put (d : Disk) (l : Location) (e : Entry) : Disk :=
  if h : l ∈ d.entries.map Prod.fst then
    ⟨replaced l e d.entries, keys_replaced l e d.entries ▸ d.distinct⟩
  else ⟨d.entries ++ [(l, e)], distinct_append d.distinct h⟩

theorem entries_put_of_mem {d : Disk} {l : Location} (e : Entry)
    (h : l ∈ d.entries.map Prod.fst) : (d.put l e).entries = replaced l e d.entries := by
  rw [put, dif_pos h]

theorem entries_put_of_not_mem {d : Disk} {l : Location} (e : Entry)
    (h : l ∉ d.entries.map Prod.fst) : (d.put l e).entries = d.entries ++ [(l, e)] := by
  rw [put, dif_neg h]

theorem lookup_entry_cons (a k : Location) (e : Entry) (rest : List (Location × Entry)) :
    ((a, e) :: rest).lookup k = if k = a then some e else rest.lookup k := by
  by_cases h : k = a
  · simp [h]
  · rw [if_neg h, List.lookup_cons, beq_eq_false_iff_ne.2 h]

/-- A replaced entry is found at its place, and the others as before. -/
theorem lookup_replaced (l k : Location) (e : Entry) (entries : List (Location × Entry)) :
    (replaced l e entries).lookup k =
      if k = l then (if l ∈ entries.map Prod.fst then some e else none)
      else entries.lookup k := by
  induction entries with
  | nil => simp [replaced]
  | cons x rest ih =>
    obtain ⟨a, f⟩ := x
    rw [replaced, List.map_cons, ← replaced, lookup_entry_cons, List.map_cons]
    by_cases ha : a = l
    · rw [if_pos ha, lookup_entry_cons, ih, ha]
      by_cases hk : k = l <;> simp [hk]
    · rw [if_neg ha, lookup_entry_cons, ih]
      by_cases hk : k = l
      · have hka : ¬ l = a := fun h => ha h.symm
        have hm : l ∈ a :: rest.map Prod.fst ↔ l ∈ rest.map Prod.fst := by
          rw [List.mem_cons, or_iff_right hka]
        rw [hk, if_neg hka, if_pos rfl, if_pos rfl]
        by_cases hr : l ∈ rest.map Prod.fst
        · rw [if_pos hr, if_pos (hm.2 hr)]
        · rw [if_neg hr, if_neg (mt hm.1 hr)]
      · simp [hk]

/-- A place has the entry that was put there, and every other place what it had before. -/
theorem get?_put (d : Disk) (l k : Location) (e : Entry) (hl : l ≠ []) :
    (d.put l e).get? k = if k = l then some e else d.get? k := by
  by_cases hk : k = []
  · subst hk
    simp [get?, hl.symm]
  · by_cases h : l ∈ d.entries.map Prod.fst
    · simp [get?, hk, entries_put_of_mem e h, lookup_replaced, h]
    · simp only [get?, List.isEmpty_iff, hk, if_false, entries_put_of_not_mem e h,
        List.lookup_append]
      by_cases hkl : k = l
      · subst hkl
        have hn : d.entries.lookup k = none := by
          rw [List.lookup_eq_none_iff]
          intro x hx
          rw [bne_iff_ne]
          rintro rfl
          exact h (List.mem_map_of_mem hx)
        simp [hn]
      · simp [hkl, lookup_entry_cons]

/-- The disk with directories along the components of a path from a place, where there is nothing
yet. A component that a later `..` takes back gets its directory as well. -/
def makeDirectories (d : Disk) : Location → List Text → Disk
  | _, [] => d
  | here, part :: rest =>
    let next := Path.step here part
    makeDirectories (if (d.get? next).isSome then d else d.put next .directory) next rest

/-- The disk with a file at the end of a path from a place, and directories along the path. -/
def putFile (d : Disk) (here : Location) (parts : List Text) (content : Octets) : Disk :=
  (d.makeDirectories here parts.dropLast).put (parts.foldl Path.step here) (.file content)

/-- The disk without a place and everything below it. -/
def remove (d : Disk) (l : Location) : Disk :=
  ⟨d.entries.filter fun x => !l.isPrefixOf x.1,
    d.distinct.sublist (List.filter_sublist.map Prod.fst)⟩

/-- The files of a disk. -/
def files (d : Disk) : List (Location × Octets) :=
  d.entries.filterMap fun x =>
    match x.2 with
    | .file content => some (x.1, content)
    | .directory => none

/-! ## Following paths -/

/-- The greatest number of octets in a name. -/
def nameLimit : Nat := 255

/-- The greatest number of octets in a path. -/
def pathLimit : Nat := 4095

/-- Follow components from a place. Each one starts from a directory, and its name has to keep to the
limit. -/
def walk (d : Disk) : Location → List Text → Except PathFault Location
  | here, [] => .ok here
  | here, part :: rest =>
    match d.get? here with
    | some .directory =>
      if nameLimit < (Octets.encode part).length then .error .tooLong
      else walk d (Path.step here part) rest
    | some (.file _) => .error .notDirectory
    | none => .error .missing

/-- The place that an absolute path leads to. There need be nothing at that place. -/
def follow (d : Disk) (p : Path) : Except PathFault Location :=
  if pathLimit < (Octets.encode p.render).length then .error .tooLong else d.walk [] p.parts

/-- The entry that an absolute path leads to. -/
def entryAt (d : Disk) (p : Path) : Except PathFault Entry :=
  match d.follow p with
  | .error fault => .error fault
  | .ok place =>
    match d.get? place with
    | some e => .ok e
    | none => .error .missing

/-- The place where writing to an absolute path puts its file. -/
def openForWriting (d : Disk) (p : Path) : Except PathFault Location :=
  match d.follow p with
  | .error fault => .error fault
  | .ok place => if d.get? place = some .directory then .error .isDirectory else .ok place

end Disk

end PluginMerge
