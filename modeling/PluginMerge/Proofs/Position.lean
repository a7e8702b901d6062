import Mathlib.Algebra.BigOperators.Group.List.Basic
import Mathlib.Algebra.Ring.Int.Defs
import PluginMerge.Proofs.Step

/-!
# Lines by their position

Everything the cursor knows in front of a line can be said about the lines of the file alone, by
position and without running through them. Positions are counted from zero.

* `depthBefore ls i`: the depth in front of line `i`, as a sum over the lines before it. The depth
  behind line `i` is `depthBefore ls (i + 1)`.
* `InRegion ls i`: line `i` lies in a debug region.
* `Filtered`, `AtTop`, `InBody`: what a position asks of a line.
* `namespaceAt debug ls i`: the namespace declared last, line `i` included.
* `cursorAt_succ`: the cursor made of these is the one that `Cursor.advance` moves.
-/

namespace PluginMerge

variable {debug : Bool} {l : Text} {ls : List Text} {i : Nat}

/-! ## Depth -/

/-- The depth in front of line `i`: the braces of all lines before it, left out or not. -/
def depthBefore (ls : List Text) (i : Nat) : Int := ((ls.take i).map Line.braceDelta).sum

@[simp] theorem depthBefore_zero (ls : List Text) : depthBefore ls 0 = 0 := rfl

theorem depthBefore_succ (h : ls[i]? = some l) :
    depthBefore ls (i + 1) = depthAfter (depthBefore ls i) l := by
  simp [depthBefore, depthAfter, List.take_add_one, h]

/-! ## Debug regions -/

def startsAt (ls : List Text) (j : Nat) : Bool := ls[j]?.any Line.startsRegion

def endsAt (ls : List Text) (k : Nat) : Bool := ls[k]?.any Line.endsRegion

/-- Line `i` lies in a debug region: some line up to `i` opens one that none of the lines between
closes before line `i`. -/
def InRegion (ls : List Text) (i : Nat) : Prop :=
  ∃ j, j ≤ i ∧ startsAt ls j = true ∧ ∀ k, k < i → j ≤ k → endsAt ls k = false

/-- A debug region is open in front of line `i`. -/
def RegionOpen (ls : List Text) (i : Nat) : Prop :=
  ∃ j, j < i ∧ startsAt ls j = true ∧ ∀ k, k < i → j ≤ k → endsAt ls k = false

instance (ls : List Text) (i : Nat) : Decidable (InRegion ls i) :=
  inferInstanceAs (Decidable (∃ j, j ≤ i ∧ _))

instance (ls : List Text) (i : Nat) : Decidable (RegionOpen ls i) :=
  inferInstanceAs (Decidable (∃ j, j < i ∧ _))

theorem startsAt_eq (h : ls[i]? = some l) : startsAt ls i = Line.startsRegion l := by
  simp [startsAt, h]

theorem endsAt_eq (h : ls[i]? = some l) : endsAt ls i = Line.endsRegion l := by
  simp [endsAt, h]

theorem not_regionOpen_zero (ls : List Text) : ¬ RegionOpen ls 0 := by
  rintro ⟨j, hj, -⟩
  omega

/-- A line lies in a region if it starts one or if one is still open in front of it. -/
theorem inRegion_iff : InRegion ls i ↔ startsAt ls i = true ∨ RegionOpen ls i := by
  constructor
  · rintro ⟨j, hj, hStart, hEnd⟩
    rcases Nat.lt_or_eq_of_le hj with hlt | rfl
    · exact Or.inr ⟨j, hlt, hStart, hEnd⟩
    · exact Or.inl hStart
  · rintro (hStart | ⟨j, hj, hStart, hEnd⟩)
    · exact ⟨i, Nat.le_refl i, hStart, fun k hk hik => by omega⟩
    · exact ⟨j, Nat.le_of_lt hj, hStart, hEnd⟩

/-- A region stays open behind a line in it that does not end it. The end counts behind its own
line. -/
theorem regionOpen_succ : RegionOpen ls (i + 1) ↔ InRegion ls i ∧ endsAt ls i = false := by
  constructor
  · rintro ⟨j, hj, hStart, hEnd⟩
    refine ⟨⟨j, by omega, hStart, fun k hk => hEnd k (by omega)⟩, hEnd i (by omega) (by omega)⟩
  · rintro ⟨⟨j, hj, hStart, hEnd⟩, hLast⟩
    refine ⟨j, by omega, hStart, fun k hk hjk => ?_⟩
    rcases Nat.lt_succ_iff_lt_or_eq.mp hk with hlt | rfl
    · exact hEnd k hlt hjk
    · exact hLast

/-! ## What a position asks of a line -/

/-- Line `i` is left out: debugging is off and the line lies in a debug region. -/
def Filtered (debug : Bool) (ls : List Text) (i : Nat) : Prop := debug = false ∧ InRegion ls i

/-- Line `i` counts and stands outside all braces. -/
def AtTop (debug : Bool) (ls : List Text) (i : Nat) : Prop :=
  ¬ Filtered debug ls i ∧ depthBefore ls i = 0

/-- Line `i` counts and there are braces around it, in front of it and behind it. -/
def InBody (debug : Bool) (ls : List Text) (i : Nat) : Prop :=
  ¬ Filtered debug ls i ∧ depthBefore ls i ≠ 0 ∧ depthBefore ls (i + 1) ≠ 0

instance (debug : Bool) (ls : List Text) (i : Nat) : Decidable (Filtered debug ls i) :=
  inferInstanceAs (Decidable (_ ∧ _))

instance (debug : Bool) (ls : List Text) (i : Nat) : Decidable (AtTop debug ls i) :=
  inferInstanceAs (Decidable (_ ∧ _))

instance (debug : Bool) (ls : List Text) (i : Nat) : Decidable (InBody debug ls i) :=
  inferInstanceAs (Decidable (_ ∧ _))

/-- The name that line `i` declares, if it is a declaration that counts. -/
def declaredAt? (debug : Bool) (ls : List Text) (i : Nat) : Option Text :=
  if AtTop debug ls i then (ls[i]?.filter Line.isNamespace).map Line.namespaceName else none

/-- The names that the lines before line `i` declare, in order. -/
def namesBefore (debug : Bool) (ls : List Text) (i : Nat) : List Text :=
  (List.range i).filterMap (declaredAt? debug ls)

/-- The namespace declared last, line `i` included. -/
def namespaceAt (debug : Bool) (ls : List Text) (i : Nat) : Option Text :=
  (namesBefore debug ls (i + 1)).getLast?

theorem filterMap_range_succ {α : Type} (f : Nat → Option α) (i : Nat) :
    (List.range (i + 1)).filterMap f = (List.range i).filterMap f ++ (f i).toList := by
  rw [List.range_succ, List.filterMap_append]
  cases h : f i <;> simp [h]

theorem namesBefore_succ (debug : Bool) (ls : List Text) (i : Nat) :
    namesBefore debug ls (i + 1) = namesBefore debug ls i ++ (declaredAt? debug ls i).toList :=
  filterMap_range_succ _ i

theorem mem_namesBefore {name : Text} :
    name ∈ namesBefore debug ls i ↔ ∃ k, k < i ∧ declaredAt? debug ls k = some name := by
  simp [namesBefore]

/-- The namespace at a line is one that the lines up to it declare. -/
theorem mem_namesBefore_of_namespaceAt {name : Text} {k : Nat} (hk : k < i)
    (h : namespaceAt debug ls k = some name) : name ∈ namesBefore debug ls i := by
  obtain ⟨j, hj, hDeclared⟩ := mem_namesBefore.mp (List.mem_of_getLast? h)
  exact mem_namesBefore.mpr ⟨j, by omega, hDeclared⟩

theorem declaredAt?_of_not_atTop (h : ¬ AtTop debug ls i) : declaredAt? debug ls i = none := by
  rw [declaredAt?, if_neg h]

theorem declaredAt?_of_atTop (hl : ls[i]? = some l) (h : AtTop debug ls i) :
    declaredAt? debug ls i = if Line.isNamespace l then some (Line.namespaceName l) else none := by
  rw [declaredAt?, if_pos h, hl]
  cases hn : Line.isNamespace l <;> simp [hn]

theorem namespaceAt_of_inBody (h : InBody debug ls i) :
    namespaceAt debug ls i = (namesBefore debug ls i).getLast? := by
  have hTop : ¬ AtTop debug ls i := fun hTop => h.2.1 hTop.2
  simp [namespaceAt, namesBefore_succ, declaredAt?_of_not_atTop hTop]

/-! ## The cursor -/

def cursorAt (debug : Bool) (path : Text) (ls : List Text) (i : Nat) : Cursor where
  path := path
  current := (namesBefore debug ls i).getLast?
  depth := depthBefore ls i
  region := ⟨decide (RegionOpen ls i)⟩
  line := i

theorem cursorAt_zero (debug : Bool) (path : Text) (ls : List Text) :
    cursorAt debug path ls 0 = { path := path } := by
  simp [cursorAt, namesBefore, not_regionOpen_zero]

/-- Entering a line, the cursor knows whether the line lies in a region. -/
theorem enter_cursorAt (debug : Bool) (path : Text) (hl : ls[i]? = some l) :
    (cursorAt debug path ls i).next.region.enter l = ⟨decide (InRegion ls i)⟩ := by
  simp only [cursorAt, Cursor.next, Region.enter, inRegion_iff, startsAt_eq hl]
  cases Line.startsRegion l <;> simp

theorem leave_enter_cursorAt (debug : Bool) (path : Text) (hl : ls[i]? = some l) :
    ((cursorAt debug path ls i).next.region.enter l).leave l = ⟨decide (RegionOpen ls (i + 1))⟩ := by
  simp only [enter_cursorAt debug path hl, Region.leave, regionOpen_succ, endsAt_eq hl]
  cases Line.endsRegion l <;> simp

/-- A line is retained if and only if its position is not filtered. -/
theorem retains_cursorAt (debug : Bool) (path : Text) (hl : ls[i]? = some l) :
    ((cursorAt debug path ls i).next.region.enter l).retains debug = true ↔
      ¬ Filtered debug ls i := by
  rw [enter_cursorAt debug path hl]
  cases debug <;> simp [Region.retains, Filtered]

/-! ### The role of a line at its position -/

theorem role_cursorAt_of_filtered (path : Text) (hl : ls[i]? = some l) (h : Filtered debug ls i) :
    (cursorAt debug path ls i).next.role debug l = .skipped := by
  refine Cursor.role_eq_skipped_iff.mpr ?_
  rw [← Bool.not_eq_true, retains_cursorAt debug path hl]
  exact not_not.mpr h

/-- At the top the words of the line decide, and a declaration comes before an import. -/
theorem role_cursorAt_of_atTop (path : Text) (hl : ls[i]? = some l) (h : AtTop debug ls i) :
    (cursorAt debug path ls i).next.role debug l =
      if Line.isNamespace l then .declaration (Line.namespaceName l)
      else if Line.isImport l then .importing
      else .idle := by
  have hr := (retains_cursorAt debug path hl).mpr h.1
  have hd : (cursorAt debug path ls i).next.depth = 0 := h.2
  unfold Cursor.role Line.topLevel
  rw [if_pos hr, if_pos hd]
  split_ifs <;> rfl

theorem role_cursorAt_of_inBody (path : Text) (hl : ls[i]? = some l) (h : InBody debug ls i) :
    (cursorAt debug path ls i).next.role debug l = .body := by
  have hr := (retains_cursorAt debug path hl).mpr h.1
  have hd : (cursorAt debug path ls i).next.depth ≠ 0 := h.2.1
  have ha : depthAfter (cursorAt debug path ls i).next.depth l ≠ 0 := by
    have := h.2.2
    rwa [depthBefore_succ hl] at this
  unfold Cursor.role
  rw [if_pos hr, if_neg hd, if_neg ha]

theorem role_cursorAt_of_closing (path : Text) (hl : ls[i]? = some l) (hf : ¬ Filtered debug ls i)
    (hd : depthBefore ls i ≠ 0) (ha : depthBefore ls (i + 1) = 0) :
    (cursorAt debug path ls i).next.role debug l = .idle := by
  have hr := (retains_cursorAt debug path hl).mpr hf
  have hd' : (cursorAt debug path ls i).next.depth ≠ 0 := hd
  have ha' : depthAfter (cursorAt debug path ls i).next.depth l = 0 := by
    rwa [depthBefore_succ hl] at ha
  unfold Cursor.role
  rw [if_pos hr, if_neg hd', if_pos ha']

/-- Every line is left out, or stands outside all braces, or between braces, or closes the last
brace. -/
theorem position_cases (debug : Bool) (ls : List Text) (i : Nat) :
    Filtered debug ls i ∨ AtTop debug ls i ∨ InBody debug ls i ∨
      (¬ Filtered debug ls i ∧ depthBefore ls i ≠ 0 ∧ depthBefore ls (i + 1) = 0) := by
  unfold AtTop InBody
  tauto

/-- The current namespace behind a line is the last of the names declared so far. -/
theorem current_role_cursorAt (debug : Bool) (path : Text) (hl : ls[i]? = some l) :
    ((cursorAt debug path ls i).next.role debug l).current (namesBefore debug ls i).getLast? =
      (namesBefore debug ls (i + 1)).getLast? := by
  rw [namesBefore_succ]
  rcases position_cases debug ls i with h | h | h | ⟨hf, hd, ha⟩
  · rw [role_cursorAt_of_filtered path hl h, declaredAt?_of_not_atTop fun hTop => hTop.1 h]
    simp [Role.current]
  · rw [role_cursorAt_of_atTop path hl h, declaredAt?_of_atTop hl h]
    split_ifs <;> simp [Role.current]
  · rw [role_cursorAt_of_inBody path hl h, declaredAt?_of_not_atTop fun hTop => h.2.1 hTop.2]
    simp [Role.current]
  · rw [role_cursorAt_of_closing path hl hf hd ha, declaredAt?_of_not_atTop fun hTop => hd hTop.2]
    simp [Role.current]

/-- The cursor at a position, moved over the line there, is the cursor at the next position. -/
theorem cursorAt_succ (debug : Bool) (path : Text) (hl : ls[i]? = some l) :
    (cursorAt debug path ls i).next.advance debug l = cursorAt debug path ls (i + 1) := by
  have hCurrent := current_role_cursorAt debug path hl
  have hRegion := leave_enter_cursorAt debug path hl
  have hDepth := depthBefore_succ hl
  simp only [Cursor.advance, hRegion]
  simp only [Cursor.next, cursorAt, Cursor.mk.injEq, hDepth] at hCurrent ⊢
  exact ⟨trivial, hCurrent, trivial, trivial, by push_cast; rfl⟩

/-- After `i` lines of a file the cursor is the one of the position, whatever the bundle holds. -/
theorem cursor_mergeLines_take (b : Bundle) (path : Text) (hi : i ≤ ls.length) :
    (b.mergeLines { path } (ls.take i)).value.2 = cursorAt b.debug path ls i := by
  induction i with
  | zero => exact (cursorAt_zero b.debug path ls).symm
  | succ i ih =>
    obtain ⟨l, hl⟩ : ∃ l, ls[i]? = some l := ⟨_, List.getElem?_eq_getElem hi⟩
    rw [Bundle.mergeLines_take_succ b _ hl, Logged.value_bind, Bundle.value_mergeLine,
      Bundle.debug_mergeLines, ih (Nat.le_of_succ_le hi)]
    exact cursorAt_succ b.debug path hl

end PluginMerge
