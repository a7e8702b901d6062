import PluginMerge.Proofs.ClosedForm
import PluginMerge.Proofs.Outcome

/-!
# Building again

A target may lie below its own source directory and have the name of a source. Building again then
finds the merged file of the first build among the sources. It does not feed back: the target is
emptied before it is read, and an empty file contributes nothing, wherever it comes in the order of
the sources.

* `mergeFiles_map_filter`: leaving out files without lines changes the number of files and nothing
  else of a merge.
* `Disk.merged_emptied`: a build merges the sources other than its target.
* `Disk.build_build`: a build without a build time, carried out again, changes nothing.
-/

namespace PluginMerge

/-! ## Files without lines -/

section Empty

variable {α : Type} {read : α → SourceFile} {keep : α → Bool} {xs : List α}

theorem Material.ofFile_of_lines_nil (name version : Text) (debug : Bool) {f : SourceFile}
    (h : f.lines = []) : ofFile name version debug f = {} := by
  rw [ofFile, h]
  rfl

theorem Material.ofFiles_map_filter (name version : Text) (debug : Bool)
    (h : ∀ x ∈ xs, keep x = false → (read x).lines = []) :
    ofFiles name version debug ((xs.filter keep).map read) =
      ofFiles name version debug (xs.map read) := by
  induction xs with
  | nil => rfl
  | cons x rest ih =>
    have hRest := ih fun y hy => h y (List.mem_cons_of_mem x hy)
    cases hKeep : keep x with
    | true =>
      rw [List.filter_cons_of_pos hKeep, List.map_cons, List.map_cons, ofFiles_cons, ofFiles_cons,
        hRest]
    | false =>
      have hLines := h x List.mem_cons_self hKeep
      rw [List.filter_cons_of_neg (by simp [hKeep]), List.map_cons, ofFiles_cons,
        ofFile_of_lines_nil name version debug hLines, empty_append, hRest]

theorem debugOn_map_filter (h : ∀ x ∈ xs, keep x = false → (read x).lines = []) :
    DebugOn ((xs.filter keep).map read) ↔ DebugOn (xs.map read) := by
  unfold DebugOn
  simp only [List.mem_map, List.mem_filter, exists_exists_and_eq_and]
  constructor
  · rintro ⟨x, ⟨hx, -⟩, hLine⟩
    exact ⟨x, hx, hLine⟩
  · rintro ⟨x, hx, l, hl, hDebug⟩
    cases hKeep : keep x with
    | true => exact ⟨x, ⟨hx, hKeep⟩, l, hl, hDebug⟩
    | false =>
      rw [h x hx hKeep] at hl
      cases hl

/-- Leaving out files without lines changes the number of files and nothing else of a merge. -/
theorem mergeFiles_map_filter (name version : Text)
    (h : ∀ x ∈ xs, keep x = false → (read x).lines = []) :
    (mergeFiles name version (xs.map read)).value =
      { (mergeFiles name version ((xs.filter keep).map read)).value with
        filesMerged := xs.length } := by
  have hDebug : decide (DebugOn ((xs.filter keep).map read)) = decide (DebugOn (xs.map read)) :=
    decide_eq_decide.mpr (debugOn_map_filter h)
  have hMaterial :=
    Material.ofFiles_map_filter name version (decide (DebugOn (xs.map read))) h
  simp only [mergeFiles, Logged.value_bind, value_debugFlag, Bundle.value_mergeEach, hDebug,
    Bundle.ofFiles, hMaterial, List.length_map]
  rfl

end Empty

namespace Disk

variable {d d' : Disk} {s : Settings} {tool : Tool} {now : Moment} {reach : Nat}
  {place root : Location} {b : Bundle}

/-! ## The target among the sources -/

theorem get?_emptied (d : Disk) (hPlace : place ≠ []) :
    (d.emptied place).get? place = some (.file []) :=
  get?_put_self d hPlace (.file [])

theorem get?_emptied_ne_directory (d : Disk) (hPlace : place ≠ []) :
    (d.emptied place).get? place ≠ some .directory := by
  rw [get?_emptied d hPlace]
  simp

/-- If the emptied target is among the sources, it is an empty one. -/
theorem content_of_emptied (hPlace : place ≠ []) {f : Found}
    (hf : f ∈ (d.emptied place).sourcesBelow root reach) (heq : root ++ f.below = place) :
    f.content = [] := by
  obtain ⟨_, _, -, -, -, -, hFile⟩ := mem_filesWithin.mp (mem_sourcesAmong.mp hf).1
  rw [heq, get?_emptied d hPlace] at hFile
  simpa using hFile.symm

/-- Apart from the number of files, a build merges the sources other than its target. -/
theorem merged_emptied (s : Settings) (hPlace : place ≠ []) (hFile : d.get? place ≠ some .directory)
    (reach : Nat) :
    (d.emptied place).merged s reach =
      { (mergeFiles s.name s.version
          ((d.othersBelow (s.source.resolve []) reach place).map Found.read)).value with
        filesMerged := ((d.emptied place).sourcesBelow (s.source.resolve []) reach).length } := by
  have hEmpty : ∀ f ∈ (d.emptied place).sourcesBelow (s.source.resolve []) reach,
      decide (s.source.resolve [] ++ f.below ≠ place) = false → f.read.lines = [] := by
    intro f hf hTarget
    have hContent := content_of_emptied hPlace hf (by simpa using hTarget)
    rw [Found.read, hContent]
    rfl
  have hOthers := (sameBut_put d place (.file [])).others_eq hFile
    (get?_emptied_ne_directory d hPlace) (s.source.resolve []) reach
  rw [← hOthers]
  exact mergeFiles_map_filter s.name s.version hEmpty

/-! ## Building again -/

/-- A build that succeeds has opened its target and found its sources behind that. -/
theorem exists_isTarget_of_build (h : (d.build s tool now reach).value.outcome = .ok b) :
    ∃ place, d.IsTarget s.target place ∧ (d.emptied place).Searchable [] s.source reach := by
  rcases isTarget_or_targetFault d s.target with ⟨place, hTarget⟩ | ⟨cause, hFault⟩
  · rcases searchable_or_sourceFault (d.emptied place) [] s.source reach with
      hSource | ⟨cause, -, hSearch⟩
    · exact ⟨place, hTarget, hSource⟩
    · rw [value_build_of_sourceFault hTarget hSearch] at h
      cases h
  · rw [value_build_of_targetFault hFault] at h
    cases h

/-- What can be searched with a file at a place can be searched with another file there, and without
one. -/
theorem Searchable.of_sameBut {content : Octets} (h : d.Searchable [] s.source reach)
    (hSame : SameBut place d d') (hFile : d.get? place = some (.file content))
    (hFile' : d'.get? place ≠ some .directory) : d'.Searchable [] s.source reach := by
  have hWithin : DirectoriesWithin d d' := hSame.directoriesWithin (by simp [hFile])
  refine ⟨⟨h.1.1, entryAt_directory_mono hWithin h.1.2⟩, fun cause hObstacle => ?_⟩
  exact h.2 cause (hObstacle.of_sameBut hSame hFile hFile')

/-- What a build without a build time writes: the merged file of the sources other than the
target. -/
def writtenOctets (s : Settings) (tool : Tool) (others : List Found) : Octets :=
  Octets.encode ((mergeFiles s.name s.version (others.map Found.read)).value.render tool.version
    timestampPlaceholder)

theorem octetsOf_merged_emptied (hStamp : s.disableTimestamp = true) (hPlace : place ≠ [])
    (hFile : d.get? place ≠ some .directory) (now : Moment) (reach : Nat) :
    octetsOf s tool now ((d.emptied place).merged s reach) =
      writtenOctets s tool (d.othersBelow (s.source.resolve []) reach place) := by
  rw [octetsOf, buildDate, hStamp, if_pos rfl, merged_emptied s hPlace hFile]
  rfl

/-- Without a build time, what is written depends on the sources other than the target and on
nothing else of the disk. -/
theorem value_build_put (hStamp : s.disableTimestamp = true) (hTarget : d.IsTarget s.target place)
    (hSource : (d.emptied place).Searchable [] s.source reach) (now : Moment) :
    (d.build s tool now reach).value =
      ⟨d.put place
          (.file (writtenOctets s tool (d.othersBelow (s.source.resolve []) reach place))),
        .ok ((d.emptied place).merged s reach)⟩ := by
  rw [value_build_of_searchable hTarget hSource,
    octetsOf_merged_emptied hStamp hTarget.ne_nil hTarget.2.2 now]

/-- **Building again changes nothing.** A build without a build time that succeeds writes the merged
file of the sources it finds, except the target. It writes the same whatever the target held and
whether or not there was one. Built again, at any time, it has the same result and leaves the same
disk. -/
theorem build_build (hStamp : s.disableTimestamp = true)
    (hOk : (d.build s tool now reach).value.outcome = .ok b) :
    ∃ place found, d.IsTarget s.target place ∧ d.discover [] s.source reach = .ok found ∧
      let others := found.value.filter fun f => s.source.resolve [] ++ f.below ≠ place
      let written := Octets.encode ((mergeFiles s.name s.version
        (others.map Found.read)).value.render tool.version timestampPlaceholder)
      (d.build s tool now reach).value.disk.get? place = some (.file written) ∧
        (∀ d' now', SameBut place d d' → d'.get? place ≠ some .directory →
          (∃ b', (d'.build s tool now' reach).value.outcome = .ok b') ∧
            (d'.build s tool now' reach).value.disk.get? place = some (.file written)) ∧
        ∀ now', ((d.build s tool now reach).value.disk.build s tool now' reach).value =
          (d.build s tool now reach).value := by
  obtain ⟨place, hTarget, hSource⟩ := exists_isTarget_of_build hOk
  have hPlace := hTarget.ne_nil
  have hEmptied := get?_emptied d hPlace
  have hDisk : d.Searchable [] s.source reach :=
    hSource.of_sameBut (sameBut_put d place (.file [])).symm hEmptied hTarget.2.2
  refine ⟨place, _, hTarget, discover_of_searchable hDisk, ?_, ?_, ?_⟩
  · rw [value_build_put hStamp hTarget hSource now]
    exact get?_put_self d hPlace _
  · intro d' now' hSame hFile
    have hTarget' := hTarget.of_sameBut hSame hFile
    have hSource' : (d'.emptied place).Searchable [] s.source reach :=
      hSource.of_sameBut (hSame.put (.file [])) hEmptied (get?_emptied_ne_directory d' hPlace)
    rw [value_build_put hStamp hTarget' hSource' now', hSame.others_eq hTarget.2.2 hFile]
    exact ⟨⟨_, rfl⟩, get?_put_self d' hPlace _⟩
  · intro now'
    rw [value_build_put hStamp hTarget hSource now]
    generalize hWritten : Entry.file
      (writtenOctets s tool (d.othersBelow (s.source.resolve []) reach place)) = entry
    have hSame := sameBut_put d place entry
    have hFile : (d.put place entry).get? place ≠ some .directory := by
      rw [get?_put_self d hPlace, ← hWritten]
      simp
    have hAgain : (d.put place entry).emptied place = d.emptied place := put_put d place entry _
    have hTarget' := hTarget.of_sameBut hSame hFile
    rw [value_build_put hStamp hTarget' (hAgain ▸ hSource) now', hAgain,
      hSame.others_eq hTarget.2.2 hFile, hWritten, put_put]

/-! ## A target in its own source directory -/

/-- A source directory with a source and an older merged file. -/
def ownTree : Disk where
  entries := [(["src".toList], .directory),
    (["src".toList, "Main.cs".toList],
      .file (Octets.encode "namespace N \x7b\nint a;\n\x7d".toList)),
    (["src".toList, "Out.cs".toList], .file (Octets.encode "//OX.DEBUGENABLE".toList))]
  distinct := by decide +kernel

/-- Settings whose target is the older merged file. -/
def intoOwnTree : Settings where
  source := ⟨.single, ["src".toList]⟩
  target := ⟨.single, ["src".toList, "Out.cs".toList]⟩
  name := "P".toList
  version := "1".toList
  disableTimestamp := true
  timestampOrigin := .commandLine
  verbosity := .trace

theorem build_build_ownTree :
    let tool : Tool := ⟨"1.0.0".toList, unknownVersion⟩
    let first := (ownTree.build intoOwnTree tool ⟨2001, 2, 3, 4, 5, 6⟩).value
    intoOwnTree.disableTimestamp = true ∧ (∃ b, first.outcome = .ok b) ∧
      ∀ now, (first.disk.build intoOwnTree tool now).value = first := by
  intro tool first
  have hTarget : ownTree.IsTarget intoOwnTree.target ["src".toList, "Out.cs".toList] := by
    decide +kernel
  have hSource : (ownTree.emptied ["src".toList, "Out.cs".toList]).Searchable []
      intoOwnTree.source usualReach := by
    decide +kernel
  have hOk : ∃ b, first.outcome = .ok b :=
    ⟨_, congrArg BuildResult.outcome (value_build_of_searchable hTarget hSource)⟩
  obtain ⟨b, hb⟩ := hOk
  obtain ⟨_, _, _, _, _, _, hAgain⟩ := build_build rfl hb
  exact ⟨rfl, ⟨b, hb⟩, hAgain⟩

end Disk

end PluginMerge
