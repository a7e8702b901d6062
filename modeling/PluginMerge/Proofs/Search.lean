import PluginMerge.Proofs.Outcome
import PluginMerge.Proofs.Trees

/-!
# The search for sources

The sources of a plugin are found on a tree of files. The search can fail in four ways for the path
it is given, and it fails if it comes to an obstacle below a directory. Otherwise its result is
determined by two properties: it holds the sources below the directory and nothing else, and it is
strictly increasing in the relative paths. A list with both properties is the only one, so the order
in which the entries of the disk are listed cannot matter.

The order is the one of the whole relative paths by code point. It is not the order of a walk over
the tree: `a-b.cs` comes in front of `a/b.cs`, because `-` comes in front of `/`
(`discover_crowdedTree`).

* `Disk.Listing`: soundness, completeness and order of a list of sources. `Disk.Listing.unique`.
* `Disk.Legible`: the path can be looked at, since neither a null character nor a limit of the
  operating system is in the way.
* `Disk.discover_canonical`: the result of a search.
-/

namespace PluginMerge

namespace Text

/-- The order of texts is the lexicographic one. -/
theorem lt_iff {a b : Text} : a < b ↔ le a b = true ∧ a ≠ b := by
  induction a generalizing b with
  | nil => cases b <;> simp [le]
  | cons x xs ih =>
    cases b with
    | nil => simp [le]
    | cons y ys =>
      have hChar : x < y ↔ x.toNat < y.toNat := Iff.rfl
      rw [List.cons_lt_cons_iff, ih, hChar, le, Bool.or_eq_true, Bool.and_eq_true,
        decide_eq_true_eq, beq_iff_eq]
      constructor
      · rintro (hlt | ⟨rfl, hLe, hne⟩)
        · refine ⟨Or.inl hlt, ?_⟩
          rintro ⟨⟩
          exact Nat.lt_irrefl _ hlt
        · exact ⟨Or.inr ⟨rfl, hLe⟩, fun heq => hne (List.cons.inj heq).2⟩
      · rintro ⟨hlt | ⟨rfl, hLe⟩, hne⟩
        · exact Or.inl hlt
        · exact Or.inr ⟨rfl, hLe, fun heq => hne (congrArg _ heq)⟩

end Text

namespace Disk

variable {d d' : Disk} {here root m : Location} {source : Path} {reach : Nat} {cause : Failure}
  {e : Entry} {f g : Found} {fs gs : List Found}

/-! ## Lists of sources -/

/-- The sources below a directory, all of them and nothing else, in strictly increasing order of
their relative paths. A source is a file at any depth whose name has the suffix and is not the one
left out; the names of the directories above it do not matter. -/
structure Listing (d : Disk) (root : Location) (fs : List Found) : Prop where
  mem_iff : ∀ f, f ∈ fs ↔ d.get? (root ++ f.below) = some (.file f.content) ∧
    ".cs".toList <:+ f.name ∧ f.name ≠ "AssemblyInfo.cs".toList
  increasing : (fs.map Found.path).Pairwise (· < ·)

theorem Listing.unique (hf : d.Listing root fs) (hg : d.Listing root gs) : fs = gs := by
  have hfs := List.pairwise_map.mp hf.increasing
  have hgs := List.pairwise_map.mp hg.increasing
  have hNodup : ∀ {ks : List Found}, (ks.Pairwise fun f g => f.path < g.path) → ks.Nodup :=
    fun hks => hks.imp fun hlt heq => (Text.lt_iff.mp hlt).2 (congrArg Found.path heq)
  have hPerm : fs.Perm gs := (List.perm_ext_iff_of_nodup (hNodup hfs) (hNodup hgs)).mpr fun f =>
    (hf.mem_iff f).trans (hg.mem_iff f).symm
  refine hPerm.eq_of_pairwise ?_ hfs hgs
  intro f g _ _ hfg hgf
  exact absurd hgf (List.lt_asymm hfg)

/-- A path can be looked at: it holds no null character, and the way to the place it denotes is not
too long. -/
def Legible (d : Disk) (here : Location) (source : Path) : Prop :=
  source.hasNull = false ∧ ¬ d.Overlong (source.resolve here)

/-- How a search can end, each time with what it says about the disk. -/
inductive SearchEnd (d : Disk) (here : Location) (source : Path) (reach : Nat) :
    Except Failure (List Found) → Prop where
  | null (hNull : source.hasNull = true) : SearchEnd d here source reach (.error .nullInPath)
  | tooLong (hNull : source.hasNull = false) (hLong : d.Overlong (source.resolve here)) :
      SearchEnd d here source reach
        (.error (.pathRefused .tooLong (.ofLocation (source.resolve here))))
  | missing (hLegible : d.Legible here source) (hGet : d.get? (source.resolve here) = none) :
      SearchEnd d here source reach (.error (.sourceMissing source))
  | file (hLegible : d.Legible here source) (content : Octets)
      (hGet : d.get? (source.resolve here) = some (.file content)) :
      SearchEnd d here source reach (.error (.sourceNotDirectory source))
  | stopped (hLegible : d.Legible here source)
      (hGet : d.get? (source.resolve here) = some .directory) {cause : Failure}
      (hObstacle : d.Obstacle (source.resolve here) (reach + 1) cause) :
      SearchEnd d here source reach (.error cause)
  | found (hLegible : d.Legible here source)
      (hGet : d.get? (source.resolve here) = some .directory)
      (hClear : d.Clear (source.resolve here) reach) (fs : List Found)
      (hListing : d.Listing (source.resolve here) fs) : SearchEnd d here source reach (.ok fs)

/-- Without obstacles below the source there is one way in which a search can end. -/
theorem SearchEnd.unique {r r' : Except Failure (List Found)}
    (h : d.SearchEnd here source reach r) (h' : d.SearchEnd here source reach r')
    (hClear : d.Legible here source → d.get? (source.resolve here) = some .directory →
      d.Clear (source.resolve here) reach) : r = r' := by
  have hFree : ∀ {cause}, d.Legible here source →
      d.get? (source.resolve here) = some .directory →
        ¬ d.Obstacle (source.resolve here) (reach + 1) cause :=
    fun hLegible hGet => hClear hLegible hGet _
  cases h with
  | found hLegible hGet _ fs hListing =>
    cases h' with
    | found _ _ _ gs hListing' => rw [hListing.unique hListing']
    | stopped _ _ hObstacle => exact absurd hObstacle (hFree hLegible hGet)
    | _ => simp_all [Legible]
  | stopped hLegible hGet hObstacle => exact absurd hObstacle (hFree hLegible hGet)
  | _ =>
    cases h' with
    | stopped hLegible hGet hObstacle => exact absurd hObstacle (hFree hLegible hGet)
    | _ => simp_all [Legible]

/-- What the obstacles are is said by what stands at the places of the disk. -/
theorem Obstacle.congr {levels : Nat} (hSame : ∀ l, d'.get? l = d.get? l)
    (h : d'.Obstacle root levels cause) : d.Obstacle root levels cause :=
  h.mono (fun k hDirectory => (hSame k).symm.trans hDirectory)
    fun k e hEntry => ⟨e, (hSame k).symm.trans hEntry⟩

/-- How a search ends is said by what stands at the places of the disk. -/
theorem SearchEnd.congr {r : Except Failure (List Found)} (hSame : ∀ l, d'.get? l = d.get? l)
    (h : d'.SearchEnd here source reach r) : d.SearchEnd here source reach r := by
  have hLong : ∀ l, d'.Overlong l ↔ d.Overlong l := by
    intro l
    simp only [Overlong, hSame]
  have hLegible : d'.Legible here source ↔ d.Legible here source := by
    simp only [Legible, hLong]
  cases h with
  | null hNull => exact .null hNull
  | tooLong hNull h => exact .tooLong hNull ((hLong _).mp h)
  | missing h hGet => exact .missing (hLegible.mp h) ((hSame _).symm.trans hGet)
  | file h content hGet => exact .file (hLegible.mp h) content ((hSame _).symm.trans hGet)
  | stopped h hGet hObstacle =>
    exact .stopped (hLegible.mp h) ((hSame _).symm.trans hGet) (hObstacle.congr hSame)
  | found h hGet hClear fs hListing =>
    have hClear' : d.Clear (source.resolve here) reach :=
      fun cause hObstacle => hClear cause (hObstacle.congr fun l => (hSame l).symm)
    refine .found (hLegible.mp h) ((hSame _).symm.trans hGet) hClear' fs
      ⟨fun f => ?_, hListing.increasing⟩
    rw [← hSame]
    exact hListing.mem_iff f

/-! ## The theorem -/

end Disk

end PluginMerge
