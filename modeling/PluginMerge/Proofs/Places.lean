import Mathlib.Data.List.Basic
import PluginMerge.Build

/-!
# One place of a disk

A build changes its disk at one place, the target's. This module says what such a change leaves as
it was: the entries of all other places, and every way along directories, since a target is never a
directory.

* `Disk.put_put`: of two entries put at a place the second remains, and nothing shows the first.
* `Disk.SameBut`: two disks that differ at most in what stands at one place.
* `Disk.follow_mono`, `Disk.entryAt_directory_mono`: a path that leads somewhere still leads there
  when directories are only added.
* `Disk.IsTarget`, `Disk.TargetFault`: where a path is written to, and why it cannot be.
* `Disk.IsTarget.of_sameBut`: a target is found at the same place whatever stands there, unless it
  is a directory.
-/

namespace PluginMerge.Disk

variable {d d' : Disk} {l k place here : Location} {e : Entry}

theorem eq_of_entries (h : d.entries = d'.entries) : d = d' := by
  obtain ⟨entries, distinct⟩ := d
  obtain ⟨entries', distinct'⟩ := d'
  cases h
  rfl

/-! ## Entries and places -/

theorem lookup_of_mem {entries : List (Location × Entry)} (h : (l, e) ∈ entries)
    (hDistinct : (entries.map Prod.fst).Nodup) : entries.lookup l = some e := by
  induction entries with
  | nil => cases h
  | cons x rest ih =>
    obtain ⟨a, f⟩ := x
    rw [List.map_cons, List.nodup_cons] at hDistinct
    rw [lookup_entry_cons]
    rcases List.mem_cons.mp h with heq | hRest
    · cases heq
      rw [if_pos rfl]
    · have hne : l ≠ a := by
        rintro rfl
        exact hDistinct.1 (List.mem_map.mpr ⟨_, hRest, rfl⟩)
      rw [if_neg hne]
      exact ih hRest hDistinct.2

/-- Places are distinct, so an entry of the list is the one that is found. -/
theorem get?_eq_some_iff (hl : l ≠ []) : d.get? l = some e ↔ (l, e) ∈ d.entries := by
  have hEmpty : l.isEmpty = false := by simpa using hl
  rw [get?, hEmpty]
  constructor
  · intro h
    obtain ⟨front, back, hEntries, -⟩ := List.lookup_eq_some_iff.mp h
    rw [hEntries]
    simp
  · exact fun h => lookup_of_mem h d.distinct

/-! ## Putting twice -/

theorem mem_keys_put (d : Disk) (l : Location) (e : Entry) :
    l ∈ (d.put l e).entries.map Prod.fst := by
  by_cases h : l ∈ d.entries.map Prod.fst
  · rw [entries_put_of_mem e h, keys_replaced]
    exact h
  · rw [entries_put_of_not_mem e h]
    simp

theorem replaced_replaced (l : Location) (e f : Entry) (entries : List (Location × Entry)) :
    replaced l f (replaced l e entries) = replaced l f entries := by
  unfold replaced
  rw [List.map_map]
  refine List.map_congr_left fun x _ => ?_
  by_cases hx : x.1 = l <;> simp [hx]

theorem replaced_of_not_mem {entries : List (Location × Entry)}
    (h : l ∉ entries.map Prod.fst) : replaced l e entries = entries := by
  unfold replaced
  refine (List.map_congr_left fun x hx => ?_).trans (List.map_id entries)
  have hne : x.1 ≠ l := fun heq => h (heq ▸ List.mem_map_of_mem hx)
  rw [if_neg hne, id]

theorem put_put (d : Disk) (l : Location) (e f : Entry) : (d.put l e).put l f = d.put l f := by
  apply eq_of_entries
  rw [entries_put_of_mem f (mem_keys_put d l e)]
  by_cases h : l ∈ d.entries.map Prod.fst
  · rw [entries_put_of_mem e h, entries_put_of_mem f h, replaced_replaced]
  · rw [entries_put_of_not_mem e h, entries_put_of_not_mem f h]
    have hFront := replaced_of_not_mem (e := f) h
    unfold replaced at hFront ⊢
    rw [List.map_append, hFront]
    simp

theorem get?_put_self (d : Disk) (hl : l ≠ []) (e : Entry) : (d.put l e).get? l = some e := by
  rw [get?_put d l l e hl, if_pos rfl]

/-! ## All other places -/

/-- The two disks have the same entries but for what stands at a place. -/
def SameBut (l : Location) (d d' : Disk) : Prop :=
  d.entries.filter (fun x => x.1 ≠ l) = d'.entries.filter (fun x => x.1 ≠ l)

instance (l : Location) (d d' : Disk) : Decidable (SameBut l d d') :=
  inferInstanceAs (Decidable (_ = _))

theorem lookup_filter_ne (entries : List (Location × Entry)) (hk : k ≠ l) :
    (entries.filter fun x => x.1 ≠ l).lookup k = entries.lookup k := by
  induction entries with
  | nil => rfl
  | cons x rest ih =>
    obtain ⟨a, e⟩ := x
    rw [lookup_entry_cons]
    by_cases ha : a = l
    · rw [List.filter_cons_of_neg (by simpa using ha), ih, if_neg (ha ▸ hk)]
    · rw [List.filter_cons_of_pos (by simpa using ha), lookup_entry_cons, ih]

theorem SameBut.get?_eq (h : SameBut l d d') (hk : k ≠ l) : d'.get? k = d.get? k := by
  unfold get?
  rw [← lookup_filter_ne d.entries hk, ← lookup_filter_ne d'.entries hk, h]

theorem sameBut_put (d : Disk) (l : Location) (e : Entry) : SameBut l d (d.put l e) := by
  unfold SameBut
  by_cases h : l ∈ d.entries.map Prod.fst
  · rw [entries_put_of_mem e h, replaced, List.filter_map]
    have hKeep : ∀ x ∈ d.entries,
        decide ((if x.1 = l then (l, e) else x).1 ≠ l) = decide (x.1 ≠ l) := by
      intro x _
      by_cases hx : x.1 = l <;> simp [hx]
    rw [Function.comp_def, List.filter_congr hKeep]
    have hAway : l ∉ (d.entries.filter fun x => x.1 ≠ l).map Prod.fst := by simp
    exact (replaced_of_not_mem hAway).symm
  · rw [entries_put_of_not_mem e h]
    simp

theorem SameBut.put (h : SameBut l d d') (e : Entry) : SameBut l (d.put l e) (d'.put l e) :=
  (sameBut_put d l e).symm.trans (h.trans (sameBut_put d' l e))

/-! ## Along directories -/

/-- Every directory of the first disk is one of the second. -/
def DirectoriesWithin (d d' : Disk) : Prop :=
  ∀ k, d.get? k = some .directory → d'.get? k = some .directory

/-- A walk asks of the places on its way only that they are directories. -/
theorem walk_mono (h : DirectoriesWithin d d') {parts : List Text}
    (hWalk : d.walk here parts = .ok place) : d'.walk here parts = .ok place := by
  induction parts generalizing here with
  | nil => exact hWalk
  | cons part rest ih =>
    unfold walk at hWalk ⊢
    cases hHere : d.get? here with
    | none => rw [hHere] at hWalk; cases hWalk
    | some entry =>
      cases entry with
      | file content => rw [hHere] at hWalk; cases hWalk
      | directory =>
        rw [hHere] at hWalk
        rw [h here hHere]
        dsimp only at hWalk ⊢
        split at hWalk
        · cases hWalk
        · rename_i hLength
          rw [if_neg hLength]
          exact ih hWalk

theorem follow_mono (h : DirectoriesWithin d d') {p : Path} (hFollow : d.follow p = .ok place) :
    d'.follow p = .ok place := by
  unfold follow at hFollow ⊢
  split at hFollow
  · cases hFollow
  · rename_i hLength
    rw [if_neg hLength]
    exact walk_mono h hFollow

theorem entryAt_directory_iff {p : Path} :
    d.entryAt p = .ok .directory ↔
      ∃ place, d.follow p = .ok place ∧ d.get? place = some .directory := by
  unfold entryAt
  cases hFollow : d.follow p with
  | error fault => simp
  | ok place =>
    cases hPlace : d.get? place with
    | none => simp [hPlace]
    | some entry => simp [hPlace]

/-- A path that leads to a directory still does when directories are only added. -/
theorem entryAt_directory_mono (h : DirectoriesWithin d d') {p : Path}
    (hEntry : d.entryAt p = .ok .directory) : d'.entryAt p = .ok .directory := by
  obtain ⟨place, hFollow, hPlace⟩ := entryAt_directory_iff.mp hEntry
  exact entryAt_directory_iff.mpr ⟨place, follow_mono h hFollow, h place hPlace⟩

/-- Two disks that differ at one place have the same directories if there is none at that place. -/
theorem SameBut.directoriesWithin (h : SameBut l d d') (hl : d.get? l ≠ some .directory) :
    DirectoriesWithin d d' := by
  intro k hk
  have hne : k ≠ l := fun heq => hl (heq ▸ hk)
  rw [h.get?_eq hne, hk]

/-! ## Opening a target -/

/-- Writing to the path puts its file at this place: the path leads there, and there is no
directory. -/
def IsTarget (d : Disk) (target : Path) (place : Location) : Prop :=
  target.hasNull = false ∧ d.follow target = .ok place ∧ d.get? place ≠ some .directory

instance (d : Disk) (target : Path) (place : Location) : Decidable (d.IsTarget target place) :=
  inferInstanceAs (Decidable (_ ∧ _))

/-- Why a path cannot be written to. -/
inductive TargetFault (d : Disk) (target : Path) : Failure → Prop where
  | null (hNull : target.hasNull = true) : TargetFault d target .nullInPath
  | path (hNull : target.hasNull = false) (fault : PathFault)
      (hFollow : d.follow target = .error fault) : TargetFault d target (.pathRefused fault target)
  | directory (hNull : target.hasNull = false) (place : Location)
      (hFollow : d.follow target = .ok place) (hPlace : d.get? place = some .directory) :
      TargetFault d target (.pathRefused .isDirectory target)

theorem IsTarget.openTarget_eq {target : Path} (h : d.IsTarget target place) :
    d.openTarget target = .ok place := by
  obtain ⟨hNull, hFollow, hPlace⟩ := h
  simp [openTarget, openForWriting, hNull, hFollow, hPlace, Except.mapError]

theorem TargetFault.openTarget_eq {target : Path} {cause : Failure}
    (h : d.TargetFault target cause) : d.openTarget target = .error cause := by
  cases h with
  | null hNull => simp [openTarget, hNull]
  | path hNull fault hFollow =>
    simp [openTarget, openForWriting, hNull, hFollow, Except.mapError]
  | directory hNull place hFollow hPlace =>
    simp [openTarget, openForWriting, hNull, hFollow, hPlace, Except.mapError]

theorem isTarget_or_targetFault (d : Disk) (target : Path) :
    (∃ place, d.IsTarget target place) ∨ ∃ cause, d.TargetFault target cause := by
  cases hNull : target.hasNull with
  | true => exact Or.inr ⟨_, .null hNull⟩
  | false =>
    cases hFollow : d.follow target with
    | error fault => exact Or.inr ⟨_, .path hNull fault hFollow⟩
    | ok place =>
      by_cases hPlace : d.get? place = some .directory
      · exact Or.inr ⟨_, .directory hNull place hFollow hPlace⟩
      · exact Or.inl ⟨place, hNull, hFollow, hPlace⟩

/-- The root is a directory and cannot be written to. -/
theorem IsTarget.ne_nil {target : Path} (h : d.IsTarget target place) : place ≠ [] := by
  rintro rfl
  exact h.2.2 rfl

theorem IsTarget.of_sameBut {target : Path} (h : d.IsTarget target place)
    (hSame : SameBut place d d') (hPlace : d'.get? place ≠ some .directory) :
    d'.IsTarget target place := by
  obtain ⟨hNull, hFollow, hFile⟩ := h
  exact ⟨hNull, follow_mono (hSame.directoriesWithin hFile) hFollow, hPlace⟩

end PluginMerge.Disk
