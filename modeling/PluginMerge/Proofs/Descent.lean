import Mathlib.Data.List.Nodup
import PluginMerge.Proofs.Places

/-!
# Going down a disk

A search goes down from a directory to all directories below it and stops at the first obstacle: a
path with too many octets, or a directory more levels down than the stack allows. This module says
what a search meets without following it: the directories that are reached, the obstacles among what
stands in them, and the files.

Which of several obstacles stops a search depends on the order of the entries. Whether one does, and
which files are met if none does, do not.

* `Disk.Reaches`: names that lead from directory to directory.
* `Disk.Obstacle`: what ends a search. `Disk.stop_descend_eq_none_iff` and
  `Disk.obstacle_of_stop_descend`: a search ends early if and only if there is an obstacle, and then
  for one of them.
* `Disk.filesWithin`: the files of a search that nothing ends, as one list. `Disk.mem_filesWithin`
  says which they are, `Disk.nodup_filesWithin` that each is there once.
* `Disk.SameBut.filter_filesWithin`: what stands at one place, if it is no directory, has no
  influence on the rest of the list.
-/

namespace PluginMerge

/-! ## Walks in a row -/

namespace Walk

variable {v w : Walk} {ws : List Walk} {cause : Failure}

theorem stop_andThen_eq_none_iff : (v.andThen w).stop = none ↔ v.stop = none ∧ w.stop = none := by
  unfold andThen
  cases hStop : v.stop <;> simp [hStop]

theorem stop_of_stop_andThen (h : (v.andThen w).stop = some cause) :
    v.stop = some cause ∨ w.stop = some cause := by
  unfold andThen at h
  cases hStop : v.stop with
  | none => exact Or.inr (by simpa [hStop] using h)
  | some cause' => exact Or.inl (by simpa [hStop] using h)

theorem found_andThen (h : v.stop = none) : (v.andThen w).found = v.found ++ w.found := by
  simp [andThen, h]

theorem stop_concat_eq_none_iff : (concat ws).stop = none ↔ ∀ w ∈ ws, w.stop = none := by
  induction ws with
  | nil => simp [concat]
  | cons w rest ih =>
    rw [List.forall_mem_cons, ← ih]
    exact stop_andThen_eq_none_iff

theorem exists_stop_of_stop_concat (h : (concat ws).stop = some cause) :
    ∃ w ∈ ws, w.stop = some cause := by
  induction ws with
  | nil => cases h
  | cons w rest ih =>
    rcases stop_of_stop_andThen h with hFirst | hRest
    · exact ⟨w, List.mem_cons_self, hFirst⟩
    · obtain ⟨w', hw', hStop⟩ := ih hRest
      exact ⟨w', List.mem_cons_of_mem w hw', hStop⟩

theorem found_concat (h : (concat ws).stop = none) : (concat ws).found = ws.flatMap found := by
  induction ws with
  | nil => rfl
  | cons w rest ih =>
    obtain ⟨hFirst, hRest⟩ := stop_andThen_eq_none_iff.mp h
    rw [List.flatMap_cons, ← ih hRest]
    exact found_andThen hFirst

end Walk

namespace Disk

variable {d d' : Disk} {root here below l m : Location} {name : Text} {e : Entry} {levels : Nat}
  {cause : Failure} {f : Found}

/-! ## The entries of a directory -/

theorem entryIn?_eq_some_iff {x : Location × Entry} {y : Text × Entry} :
    entryIn? here x = some y ↔ x = (here ++ [y.1], y.2) := by
  obtain ⟨place, entry⟩ := x
  obtain ⟨name, e⟩ := y
  unfold entryIn?
  simp only [List.isPrefixOf_iff_prefix]
  constructor
  · intro h
    split at h
    · rename_i hPlace
      obtain ⟨hLength, rest, rfl⟩ := hPlace
      have hOne : rest.length = 1 := by
        rw [List.length_append] at hLength
        omega
      obtain ⟨a, rfl⟩ := List.length_eq_one_iff.mp hOne
      simpa using h
    · cases h
  · intro h
    cases h
    simp

/-- The entries of a directory are those one name below it. -/
theorem mem_entriesIn : (name, e) ∈ d.entriesIn here ↔ d.get? (here ++ [name]) = some e := by
  rw [get?_eq_some_iff (by simp), entriesIn, List.mem_filterMap]
  simp only [entryIn?_eq_some_iff, exists_eq_right]

/-- The name of an entry, if it is a directory and stands directly in a directory. -/
def directoryIn? (here : Location) (x : Location × Entry) : Option Text :=
  (entryIn? here x).bind fun y => if y.2 = .directory then some y.1 else none

theorem directoryIn?_eq_some_iff {x : Location × Entry} :
    directoryIn? here x = some name ↔ x = (here ++ [name], .directory) := by
  simp [directoryIn?, Option.bind_eq_some_iff, entryIn?_eq_some_iff]

theorem directoriesIn_eq_filterMap (d : Disk) (here : Location) :
    d.directoriesIn here = d.entries.filterMap (directoryIn? here) := by
  rw [directoriesIn, entriesIn, List.filterMap_filterMap]
  rfl

theorem mem_directoriesIn :
    name ∈ d.directoriesIn here ↔ d.get? (here ++ [name]) = some .directory := by
  rw [get?_eq_some_iff (by simp), directoriesIn_eq_filterMap, List.mem_filterMap]
  simp only [directoryIn?_eq_some_iff, exists_eq_right]

/-- Every name leads from a directory to a directory in it. -/
def Reaches (d : Disk) (here : Location) : Location → Prop
  | [] => True
  | name :: rest => d.get? (here ++ [name]) = some .directory ∧ d.Reaches (here ++ [name]) rest

/-- The path of a place has more octets than a path can have, or one of its names more than a name
can have. -/
def TooLong (l : Location) : Prop :=
  pathLimit < (Octets.encode l.render).length ∨
    ∃ name ∈ l, nameLimit < (Octets.encode name).length

theorem isTooLong_iff : isTooLong l = true ↔ TooLong l := by
  simp [isTooLong, TooLong]

/-- What ends a search that can go down so many levels: a directory whose path is too long, an entry
with the suffix of sources whose path is too long, be it a file or a directory, and a directory that
is too far down. -/
inductive Obstacle (d : Disk) (root : Location) (levels : Nat) : Failure → Prop where
  | directory {m : Location} (hReaches : d.Reaches root m) (hLong : TooLong (root ++ m)) :
      Obstacle d root levels (.tooLong (root ++ m))
  | entry {m : Location} {name : Text} {e : Entry} (hReaches : d.Reaches root m)
      (hEntry : d.get? (root ++ m ++ [name]) = some e) (hSuffix : sourceSuffix <:+ name)
      (hLong : TooLong (root ++ m ++ [name])) :
      Obstacle d root levels (.tooLong (root ++ m ++ [name]))
  | depth {m : Location} (hReaches : d.Reaches root m) (hDeep : levels ≤ m.length) :
      Obstacle d root levels .stackUsedUp

theorem Obstacle.of_isTooLong (hLong : isTooLong here = true) :
    d.Obstacle here levels (.tooLong here) := by
  have h : d.Obstacle here levels (.tooLong (here ++ [])) :=
    .directory trivial (by rwa [List.append_nil, ← isTooLong_iff])
  rwa [List.append_nil] at h

/-- An obstacle below a directory is one below the directory that holds it. -/
theorem Obstacle.of_directory (hDirectory : d.get? (here ++ [name]) = some .directory)
    (h : d.Obstacle (here ++ [name]) levels cause) : d.Obstacle here (levels + 1) cause := by
  have hPlace : ∀ m, here ++ [name] ++ m = here ++ name :: m := fun m => by simp
  cases h with
  | directory hReaches hLong =>
    rw [hPlace] at hLong ⊢
    exact .directory ⟨hDirectory, hReaches⟩ hLong
  | entry hReaches hEntry hSuffix hLong =>
    rw [hPlace] at hEntry hLong ⊢
    exact .entry ⟨hDirectory, hReaches⟩ hEntry hSuffix hLong
  | depth hReaches hDeep =>
    exact .depth (m := name :: _) ⟨hDirectory, hReaches⟩ (Nat.succ_le_succ hDeep)

/-- An obstacle is one of the directory itself or one below a directory in it. -/
theorem Obstacle.local_or_below (h : d.Obstacle here levels cause) :
    TooLong here ∨
      (∃ name e, d.get? (here ++ [name]) = some e ∧ sourceSuffix <:+ name ∧
        TooLong (here ++ [name])) ∨
      levels = 0 ∨
      ∃ name rest, levels = rest + 1 ∧ d.get? (here ++ [name]) = some .directory ∧
        d.Obstacle (here ++ [name]) rest cause := by
  have hPlace : ∀ name m, here ++ name :: m = here ++ [name] ++ m := fun name m => by simp
  cases levels with
  | zero => exact Or.inr (Or.inr (Or.inl rfl))
  | succ rest =>
    cases h with
    | @directory m hReaches hLong =>
      cases m with
      | nil => exact Or.inl (by rwa [List.append_nil] at hLong)
      | cons name m =>
        rw [hPlace] at hLong ⊢
        exact Or.inr (Or.inr (Or.inr ⟨name, rest, rfl, hReaches.1, .directory hReaches.2 hLong⟩))
    | @entry m name e hReaches hEntry hSuffix hLong =>
      cases m with
      | nil =>
        rw [List.append_nil] at hEntry hLong
        exact Or.inr (Or.inl ⟨name, e, hEntry, hSuffix, hLong⟩)
      | cons a m =>
        rw [hPlace] at hEntry hLong ⊢
        exact Or.inr (Or.inr (Or.inr
          ⟨a, rest, rfl, hReaches.1, .entry hReaches.2 hEntry hSuffix hLong⟩))
    | @depth m hReaches hDeep =>
      cases m with
      | nil => cases hDeep
      | cons name m =>
        exact Or.inr (Or.inr (Or.inr
          ⟨name, rest, rfl, hReaches.1, .depth hReaches.2 (Nat.le_of_succ_le_succ hDeep)⟩))

/-! ## Where a search is stopped -/

theorem stop_lookAt_eq_some_iff {x : Text × Entry} :
    (lookAt root below x).stop = some cause ↔
      sourceSuffix <:+ x.1 ∧ TooLong (root ++ below ++ [x.1]) ∧
        cause = .tooLong (root ++ below ++ [x.1]) := by
  obtain ⟨name, e⟩ := x
  rw [← isTooLong_iff, ← List.isSuffixOf_iff_suffix, List.append_assoc]
  unfold lookAt
  by_cases hSuffix : sourceSuffix.isSuffixOf name = true
  · by_cases hLong : isTooLong (root ++ (below ++ [name])) = true
    · simp [hSuffix, hLong, Walk.stopped, eq_comm]
    · cases e <;> simp [hSuffix, hLong]
  · simp [hSuffix]

theorem stop_lookAt_eq_none_iff {x : Text × Entry} :
    (lookAt root below x).stop = none ↔
      (sourceSuffix <:+ x.1 → ¬ TooLong (root ++ below ++ [x.1])) := by
  rw [Option.eq_none_iff_forall_ne_some]
  simp only [ne_eq, stop_lookAt_eq_some_iff]
  constructor
  · intro h hSuffix hLong
    exact h _ ⟨hSuffix, hLong, rfl⟩
  · rintro h cause ⟨hSuffix, hLong, -⟩
    exact h hSuffix hLong

/-- What is looked at in one directory. -/
def lookAround (d : Disk) (root below : Location) : Walk :=
  Walk.concat ((d.entriesIn (root ++ below)).map (lookAt root below))

/-- Looking around in a directory is stopped by an entry with the right ending and a path that is
too long, and by nothing else. -/
theorem stop_lookAround_eq_none_iff :
    (d.lookAround root below).stop = none ↔
      ∀ name e, d.get? (root ++ below ++ [name]) = some e → sourceSuffix <:+ name →
        ¬ TooLong (root ++ below ++ [name]) := by
  rw [lookAround, Walk.stop_concat_eq_none_iff, List.forall_mem_map]
  simp only [stop_lookAt_eq_none_iff, Prod.forall, mem_entriesIn]

theorem obstacle_of_stop_lookAround (h : (d.lookAround root below).stop = some cause) :
    d.Obstacle (root ++ below) levels cause := by
  obtain ⟨w, hw, hStop⟩ := Walk.exists_stop_of_stop_concat h
  obtain ⟨⟨name, e⟩, hx, rfl⟩ := List.mem_map.mp hw
  obtain ⟨hSuffix, hLong, rfl⟩ := stop_lookAt_eq_some_iff.mp hStop
  have hPlace : root ++ below ++ [name] = root ++ below ++ [] ++ [name] := by simp
  have hEntry := mem_entriesIn.mp hx
  dsimp only at hLong hSuffix ⊢
  rw [hPlace] at hEntry hLong ⊢
  exact .entry trivial hEntry hSuffix hLong

theorem descend_zero (hShort : isTooLong (root ++ below) = false) :
    d.descend root 0 below = (d.lookAround root below).andThen (.stopped .stackUsedUp) := by
  rw [descend, hShort]
  rfl

theorem descend_succ (hShort : isTooLong (root ++ below) = false) :
    d.descend root (levels + 1) below =
      (d.lookAround root below).andThen (.concat ((d.directoriesIn (root ++ below)).map fun name =>
        d.descend root levels (below ++ [name]))) := by
  rw [descend, hShort]
  rfl

theorem descend_of_isTooLong (hLong : isTooLong (root ++ below) = true) :
    d.descend root levels below = .stopped (.tooLong (root ++ below)) := by
  unfold descend
  rw [if_pos hLong]

/-- Where a search is stopped: at the directory itself, at one of its entries, for want of a level,
or below a directory in it. -/
theorem stop_descend_cases (h : (d.descend root levels below).stop = some cause) :
    isTooLong (root ++ below) = true ∧ cause = .tooLong (root ++ below) ∨
      (d.lookAround root below).stop = some cause ∨
      levels = 0 ∧ cause = .stackUsedUp ∨
      ∃ rest name, levels = rest + 1 ∧ d.get? (root ++ below ++ [name]) = some .directory ∧
        (d.descend root rest (below ++ [name])).stop = some cause := by
  cases hLong : isTooLong (root ++ below) with
  | true =>
    rw [descend_of_isTooLong hLong] at h
    cases h
    exact Or.inl ⟨rfl, rfl⟩
  | false =>
    cases levels with
    | zero =>
      rw [descend_zero hLong] at h
      rcases Walk.stop_of_stop_andThen h with hAround | hStack
      · exact Or.inr (Or.inl hAround)
      · cases hStack
        exact Or.inr (Or.inr (Or.inl ⟨rfl, rfl⟩))
    | succ rest =>
      rw [descend_succ hLong] at h
      rcases Walk.stop_of_stop_andThen h with hAround | hBelow
      · exact Or.inr (Or.inl hAround)
      · obtain ⟨w, hw, hStop⟩ := Walk.exists_stop_of_stop_concat hBelow
        obtain ⟨name, hName, rfl⟩ := List.mem_map.mp hw
        exact Or.inr (Or.inr (Or.inr ⟨rest, name, rfl, mem_directoriesIn.mp hName, hStop⟩))

/-- A search that is stopped is stopped by an obstacle. -/
theorem obstacle_of_stop_descend (h : (d.descend root levels below).stop = some cause) :
    d.Obstacle (root ++ below) levels cause := by
  induction levels generalizing below with
  | zero =>
    rcases stop_descend_cases h with
      ⟨hLong, rfl⟩ | hAround | ⟨-, rfl⟩ | ⟨rest, name, hLevels, -, -⟩
    · exact .of_isTooLong hLong
    · exact obstacle_of_stop_lookAround hAround
    · exact .depth (m := []) trivial (Nat.zero_le _)
    · cases hLevels
  | succ levels ih =>
    rcases stop_descend_cases h with
      ⟨hLong, rfl⟩ | hAround | ⟨hLevels, -⟩ | ⟨rest, name, hLevels, hDirectory, hStop⟩
    · exact .of_isTooLong hLong
    · exact obstacle_of_stop_lookAround hAround
    · cases hLevels
    · cases hLevels
      have hObstacle := ih hStop
      rw [← List.append_assoc] at hObstacle
      exact hObstacle.of_directory hDirectory

theorem isTooLong_of_stop_descend (h : (d.descend root levels below).stop = none) :
    isTooLong (root ++ below) = false := by
  cases hLong : isTooLong (root ++ below) with
  | false => rfl
  | true =>
    rw [descend_of_isTooLong hLong] at h
    cases h

/-- A search that is not stopped has met no obstacle. -/
theorem not_obstacle_of_stop_descend (h : (d.descend root levels below).stop = none) :
    ¬ d.Obstacle (root ++ below) levels cause := by
  have hShort := isTooLong_of_stop_descend h
  induction levels generalizing below with
  | zero =>
    rw [descend_zero hShort] at h
    cases (Walk.stop_andThen_eq_none_iff.mp h).2
  | succ levels ih =>
    rw [descend_succ hShort] at h
    obtain ⟨hAround, hBelow⟩ := Walk.stop_andThen_eq_none_iff.mp h
    intro hObstacle
    rcases hObstacle.local_or_below with
      hLong | ⟨name, e, hEntry, hSuffix, hLong⟩ | hZero | ⟨name, rest, hLevels, hDirectory, hRest⟩
    · rw [isTooLong_iff.mpr hLong] at hShort
      cases hShort
    · exact stop_lookAround_eq_none_iff.mp hAround name e hEntry hSuffix hLong
    · cases hZero
    · cases hLevels
      have hName := List.mem_map_of_mem (f := fun name => d.descend root levels (below ++ [name]))
        (mem_directoriesIn.mpr hDirectory)
      have hStop := Walk.stop_concat_eq_none_iff.mp hBelow _ hName
      rw [List.append_assoc] at hRest
      exact ih hStop (isTooLong_of_stop_descend hStop) hRest

/-- A search comes to its end if and only if there is no obstacle. -/
theorem stop_descend_eq_none_iff :
    (d.descend root levels below).stop = none ↔
      ∀ cause, ¬ d.Obstacle (root ++ below) levels cause := by
  refine ⟨fun h cause => not_obstacle_of_stop_descend h, fun h => ?_⟩
  cases hStop : (d.descend root levels below).stop with
  | none => rfl
  | some cause => exact absurd (obstacle_of_stop_descend hStop) (h cause)

/-- No obstacle ends a search below a directory that can go down `reach` levels of directories. -/
def Clear (d : Disk) (root : Location) (reach : Nat) : Prop :=
  ∀ cause, ¬ d.Obstacle root (reach + 1) cause

/-- Whether a search passes can be found out by searching. -/
theorem clear_iff {reach : Nat} :
    (d.descend root (reach + 1) []).stop = none ↔ d.Clear root reach := by
  rw [stop_descend_eq_none_iff, List.append_nil]
  rfl

instance (d : Disk) (root : Location) (reach : Nat) : Decidable (d.Clear root reach) :=
  decidable_of_iff _ clear_iff

/-! ## The files that are met -/

/-- An entry of the directory `below` the root as a file with the suffix of sources, if it is one.
-/
def fileIn? (below : Location) (x : Text × Entry) : Option Found :=
  match x.2 with
  | .file content =>
    if sourceSuffix.isSuffixOf x.1 then some ⟨below ++ [x.1], content⟩ else none
  | .directory => none

/-- The files with the suffix of sources directly in a directory. -/
def filesIn (d : Disk) (root below : Location) : List Found :=
  (d.entriesIn (root ++ below)).filterMap (fileIn? below)

/-- The files with the suffix of sources down to so many levels below a directory, in the order in
which a search meets them. -/
def filesWithin (d : Disk) (root : Location) : Nat → Location → List Found
  | 0, below => d.filesIn root below
  | levels + 1, below =>
    d.filesIn root below ++
      (d.directoriesIn (root ++ below)).flatMap fun name => d.filesWithin root levels (below ++ [name])

theorem found_lookAt {x : Text × Entry} (h : (lookAt root below x).stop = none) :
    (lookAt root below x).found = (fileIn? below x).toList := by
  obtain ⟨name, e⟩ := x
  unfold lookAt at h ⊢
  unfold fileIn?
  by_cases hSuffix : sourceSuffix.isSuffixOf name = true
  · by_cases hLong : isTooLong (root ++ (below ++ [name])) = true
    · simp [hSuffix, hLong, Walk.stopped] at h
    · cases e <;> simp [hSuffix, hLong]
  · cases e <;> simp [hSuffix]

theorem found_lookAround (h : (d.lookAround root below).stop = none) :
    (d.lookAround root below).found = d.filesIn root below := by
  have hEach := Walk.stop_concat_eq_none_iff.mp h
  rw [lookAround, Walk.found_concat h, List.flatMap_map, filesIn, List.filterMap_eq_flatMap_toList]
  refine List.flatMap_congr fun x hx => ?_
  exact found_lookAt (hEach _ (List.mem_map_of_mem hx))

/-- What a search that is not stopped has found. -/
theorem found_descend (h : (d.descend root levels below).stop = none) :
    (d.descend root levels below).found = d.filesWithin root levels below := by
  have hShort := isTooLong_of_stop_descend h
  induction levels generalizing below with
  | zero =>
    rw [descend_zero hShort] at h
    cases (Walk.stop_andThen_eq_none_iff.mp h).2
  | succ levels ih =>
    rw [descend_succ hShort] at h ⊢
    obtain ⟨hAround, hBelow⟩ := Walk.stop_andThen_eq_none_iff.mp h
    have hEach := Walk.stop_concat_eq_none_iff.mp hBelow
    rw [Walk.found_andThen hAround, found_lookAround hAround, Walk.found_concat hBelow,
      List.flatMap_map, filesWithin]
    refine congrArg (d.filesIn root below ++ ·) (List.flatMap_congr fun name hName => ?_)
    have hStop := hEach _ (List.mem_map_of_mem hName)
    exact ih hStop (isTooLong_of_stop_descend hStop)

theorem fileIn?_eq_some_iff {x : Text × Entry} :
    fileIn? below x = some f ↔
      f.below = below ++ [x.1] ∧ sourceSuffix <:+ x.1 ∧ x.2 = .file f.content := by
  obtain ⟨name, e⟩ := x
  obtain ⟨place, content⟩ := f
  rw [← List.isSuffixOf_iff_suffix]
  unfold fileIn?
  cases e with
  | directory => simp
  | file octets =>
    by_cases hSuffix : sourceSuffix.isSuffixOf name = true
    · simp [hSuffix, eq_comm]
    · simp [hSuffix]

theorem mem_filesIn :
    f ∈ d.filesIn root below ↔
      ∃ name, f.below = below ++ [name] ∧ sourceSuffix <:+ name ∧
        d.get? (root ++ f.below) = some (.file f.content) := by
  rw [filesIn, List.mem_filterMap]
  constructor
  · rintro ⟨⟨name, e⟩, hx, hFile⟩
    obtain ⟨hBelow, hSuffix, rfl⟩ := fileIn?_eq_some_iff.mp hFile
    refine ⟨name, hBelow, hSuffix, ?_⟩
    rw [hBelow, ← List.append_assoc]
    exact mem_entriesIn.mp hx
  · rintro ⟨name, hBelow, hSuffix, hGet⟩
    rw [hBelow, ← List.append_assoc] at hGet
    exact ⟨(name, _), mem_entriesIn.mpr hGet, fileIn?_eq_some_iff.mpr ⟨hBelow, hSuffix, rfl⟩⟩

/-- A search meets a file with the suffix of sources if directories lead to it and it is not too far
down. -/
theorem mem_filesWithin :
    f ∈ d.filesWithin root levels below ↔
      ∃ m name, f.below = below ++ m ++ [name] ∧ m.length ≤ levels ∧ d.Reaches (root ++ below) m ∧
        sourceSuffix <:+ name ∧ d.get? (root ++ f.below) = some (.file f.content) := by
  induction levels generalizing below with
  | zero =>
    rw [filesWithin, mem_filesIn]
    constructor
    · rintro ⟨name, hBelow, hFile⟩
      exact ⟨[], name, by rw [hBelow, List.append_nil], Nat.le_refl 0, trivial, hFile⟩
    · rintro ⟨m, name, hBelow, hLevels, -, hFile⟩
      rw [List.length_eq_zero_iff.mp (Nat.le_zero.mp hLevels), List.append_nil] at hBelow
      exact ⟨name, hBelow, hFile⟩
  | succ levels ih =>
    rw [filesWithin, List.mem_append, mem_filesIn, List.mem_flatMap]
    constructor
    · rintro (⟨name, hBelow, hFile⟩ | ⟨a, ha, hRest⟩)
      · exact ⟨[], name, by rw [hBelow, List.append_nil], Nat.zero_le _, trivial, hFile⟩
      · obtain ⟨m, name, hBelow, hLevels, hReaches, hFile⟩ := ih.mp hRest
        rw [← List.append_assoc] at hReaches
        refine ⟨a :: m, name, ?_, Nat.succ_le_succ hLevels, ⟨mem_directoriesIn.mp ha, hReaches⟩,
          hFile⟩
        rw [hBelow]
        simp
    · rintro ⟨m, name, hBelow, hLevels, hReaches, hFile⟩
      cases m with
      | nil =>
        rw [List.append_nil] at hBelow
        exact Or.inl ⟨name, hBelow, hFile⟩
      | cons a m =>
        refine Or.inr ⟨a, mem_directoriesIn.mpr hReaches.1, ih.mpr ⟨m, name, ?_,
          Nat.le_of_succ_le_succ hLevels, ?_, hFile⟩⟩
        · rw [hBelow]
          simp
        · rw [← List.append_assoc]
          exact hReaches.2

theorem eq_of_bind_fileIn? {x : Location × Entry}
    (h : (entryIn? (root ++ below) x).bind (fileIn? below) = some f) :
    x = (root ++ f.below, .file f.content) := by
  obtain ⟨⟨name, e⟩, hIn, hFile⟩ := Option.bind_eq_some_iff.mp h
  obtain ⟨hBelow, -, hEntry⟩ := fileIn?_eq_some_iff.mp hFile
  rw [entryIn?_eq_some_iff.mp hIn, hBelow, hEntry, List.append_assoc]

theorem SameBut.filterMap_eq {α : Type} (h : SameBut l d d') {g : Location × Entry → Option α}
    (hd : ∀ x ∈ d.entries, x.1 = l → g x = none)
    (hd' : ∀ x ∈ d'.entries, x.1 = l → g x = none) :
    d'.entries.filterMap g = d.entries.filterMap g := by
  have hAway : ∀ entries : List (Location × Entry), (∀ x ∈ entries, x.1 = l → g x = none) →
      entries.filterMap g = (entries.filter fun x => x.1 ≠ l).filterMap g := by
    intro entries hNone
    rw [List.filterMap_filter]
    refine List.filterMap_congr fun x hx => ?_
    by_cases hPlace : x.1 = l
    · simp [hPlace, hNone x hx hPlace]
    · simp [hPlace]
  rw [hAway d.entries hd, hAway d'.entries hd', h]

theorem SameBut.directoriesIn_eq (h : SameBut l d d') (hd : d.get? l ≠ some .directory)
    (hd' : d'.get? l ≠ some .directory) (here : Location) :
    d'.directoriesIn here = d.directoriesIn here := by
  have hNone : ∀ {d : Disk}, d.get? l ≠ some .directory → ∀ x ∈ d.entries, x.1 = l →
      directoryIn? here x = none := by
    rintro d hFile x hx rfl
    cases hIn : directoryIn? here x with
    | none => rfl
    | some name =>
      rw [directoryIn?_eq_some_iff.mp hIn] at hx hFile
      exact absurd ((get?_eq_some_iff (by simp)).mpr hx) hFile
  rw [directoriesIn_eq_filterMap, directoriesIn_eq_filterMap]
  exact h.filterMap_eq (hNone hd) (hNone hd')

/-- Writing at one place adds and removes no file elsewhere. -/
theorem SameBut.filter_filesIn (h : SameBut l d d') (root below : Location) :
    (d'.filesIn root below).filter (fun f => root ++ f.below ≠ l) =
      (d.filesIn root below).filter fun f => root ++ f.below ≠ l := by
  have hNone : ∀ {d : Disk}, ∀ x ∈ d.entries, x.1 = l →
      ((entryIn? (root ++ below) x).bind (fileIn? below)).filter (fun f => root ++ f.below ≠ l) =
        none := by
    rintro d x - rfl
    cases hFile : (entryIn? (root ++ below) x).bind (fileIn? below) with
    | none => rfl
    | some f => simp [eq_of_bind_fileIn? hFile]
  rw [filesIn, filesIn, entriesIn, entriesIn, List.filterMap_filterMap, List.filterMap_filterMap,
    List.filter_filterMap, List.filter_filterMap]
  exact h.filterMap_eq hNone hNone

/-- What stands at a place, if it is no directory, makes no difference to the files elsewhere. -/
theorem SameBut.filter_filesWithin (h : SameBut l d d') (hd : d.get? l ≠ some .directory)
    (hd' : d'.get? l ≠ some .directory) (root : Location) (levels : Nat) (below : Location) :
    (d'.filesWithin root levels below).filter (fun f => root ++ f.below ≠ l) =
      (d.filesWithin root levels below).filter fun f => root ++ f.below ≠ l := by
  induction levels generalizing below with
  | zero => exact h.filter_filesIn root below
  | succ levels ih =>
    rw [filesWithin, filesWithin, List.filter_append, List.filter_append, h.filter_filesIn,
      List.filter_flatMap, List.filter_flatMap, h.directoriesIn_eq hd hd']
    exact congrArg _ (List.flatMap_congr fun name _ => ih (below ++ [name]))

theorem Reaches.mono (h : DirectoriesWithin d d') (hReaches : d.Reaches here m) :
    d'.Reaches here m := by
  induction m generalizing here with
  | nil => trivial
  | cons name rest ih => exact ⟨h _ hReaches.1, ih hReaches.2⟩

/-- An obstacle remains as long as the directories and the names of the entries do. -/
theorem Obstacle.mono (h : d'.Obstacle root levels cause) (hWithin : DirectoriesWithin d' d)
    (hEntries : ∀ k e, d'.get? k = some e → ∃ e', d.get? k = some e') :
    d.Obstacle root levels cause := by
  cases h with
  | directory hReaches hLong => exact .directory (hReaches.mono hWithin) hLong
  | entry hReaches hEntry hSuffix hLong =>
    obtain ⟨e', hEntry'⟩ := hEntries _ _ hEntry
    exact .entry (hReaches.mono hWithin) hEntry' hSuffix hLong
  | depth hReaches hDeep => exact .depth (hReaches.mono hWithin) hDeep

/-- Taking a file away, or putting another one in its place, brings no obstacle. -/
theorem Obstacle.of_sameBut {content : Octets} (h : d'.Obstacle root levels cause)
    (hSame : SameBut l d d') (hd : d.get? l = some (.file content))
    (hd' : d'.get? l ≠ some .directory) : d.Obstacle root levels cause := by
  refine h.mono (SameBut.directoriesWithin hSame.symm hd') fun k e hEntry => ?_
  by_cases hPlace : k = l
  · exact ⟨.file content, hPlace ▸ hd⟩
  · exact ⟨e, (hSame.get?_eq hPlace).symm.trans hEntry⟩

end Disk

end PluginMerge
