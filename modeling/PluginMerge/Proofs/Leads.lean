import PluginMerge.Proofs.Layout
import PluginMerge.Proofs.Position

/-!
# Runs over known lines

What a merge does on lines of a known kind does not depend on the rest of the file, only on the kind
of place where the cursor stands. Such runs are strung together end to end, as long as each ends at
a place of the kind where the next begins.

* `Cursor.Outside`, `Cursor.Inside`: the places, outside all braces and in the block of a namespace.
* `Leads`: a run over some lines from one kind of place to another, and what it does to the bundle.
* `Leads.append`: one run behind another.
* `leads_idles`, `leads_imports`, `leads_declaration`, `leads_bodies`, `leads_closing`: the lines of
  which a well-formed source is made.
-/

namespace PluginMerge

/-! ## Kinds of cursors -/

namespace Cursor

variable {c : Cursor} {l : Text} {debug : Bool}

/-- No brace and no debug region is open. -/
def Outside (c : Cursor) : Prop := c.depth = 0 ∧ c.region = ⟨false⟩

/-- The cursor stands at a depth in a namespace, and no debug region is open. -/
def Inside (n : Text) (d : Int) (c : Cursor) : Prop :=
  c.current = some n ∧ c.depth = d ∧ c.region = ⟨false⟩

theorem retains_of_shown (hRegion : c.region = ⟨false⟩) (hShown : Line.startsRegion l = false) :
    (c.region.enter l).retains debug = true := by
  simp [hRegion, Region.enter, hShown, Region.retains]

theorem region_advance (hRegion : c.region = ⟨false⟩) (hShown : Line.startsRegion l = false) :
    (c.advance debug l).region = ⟨false⟩ := by
  simp [advance, hRegion, Region.enter, hShown, Region.leave]

/-- Outside all braces and regions a line is what it looks like. -/
theorem Outside.role_eq (hc : c.Outside) (hShown : Line.startsRegion l = false) :
    c.role debug l =
      match Line.topLevel l with
      | .declaration name => .declaration name
      | .importing => .importing
      | .nothing => .idle := by
  unfold role
  exact (if_pos (retains_of_shown hc.2 hShown)).trans (if_pos hc.1)

theorem Outside.advance (hc : c.Outside) (hShown : Line.startsRegion l = false)
    (hBraces : Line.braceDelta l = 0) : (c.advance debug l).Outside := by
  refine ⟨?_, region_advance hc.2 hShown⟩
  rw [Cursor.advance, depthAfter, hc.1, hBraces]
  rfl

/-- Inside a block every line goes to the bucket, but for the one that closes the block. -/
theorem Inside.role_eq {n : Text} {d : Int} (hc : c.Inside n d)
    (hShown : Line.startsRegion l = false) (hd : d ≠ 0) :
    c.role debug l = if d + Line.braceDelta l = 0 then .idle else .body := by
  obtain ⟨-, hDepth, hRegion⟩ := hc
  rw [role, if_pos (retains_of_shown hRegion hShown), if_neg (hDepth ▸ hd), depthAfter, hDepth]

end Cursor

/-! ## Runs -/

/-- From a cursor of the kind `P` a run over the lines ends at one of the kind `Q`, and it changes
the bundle by `f`. -/
def Leads (P : Cursor → Prop) (ls : List Text) (Q : Cursor → Prop) (f : Bundle → Bundle) : Prop :=
  ∀ b c, P c → ∃ c', (b.mergeLines c ls).value = (f b, c') ∧ Q c'

section Runs

variable {P Q R : Cursor → Prop} {xs ys : List Text} {f g : Bundle → Bundle} {l n : Text} {d : Int}

theorem leads_nil (P : Cursor → Prop) : Leads P [] P id := fun _ c hc => ⟨c, rfl, hc⟩

/-- Stretches of lines can be put in a row: the first leaves the cursor where the second expects it.
-/
theorem Leads.append (hx : Leads P xs Q f) (hy : Leads Q ys R g) :
    Leads P (xs ++ ys) R (g ∘ f) := by
  intro b c hc
  obtain ⟨c', hFirst, hc'⟩ := hx b c hc
  obtain ⟨c'', hSecond, hc''⟩ := hy (f b) c' hc'
  refine ⟨c'', ?_, hc''⟩
  rw [Bundle.mergeLines_append, Logged.value_bind, hFirst]
  exact hSecond

theorem value_mergeLines_singleton (b : Bundle) (c : Cursor) (l : Text) :
    (b.mergeLines c [l]).value =
      ((b.play c.next l (c.next.role b.debug l)).value, c.next.advance b.debug l) :=
  Bundle.value_mergeLine b c.next l

/-! ### Single lines -/

theorem leads_idle (h : Line.Idle l) : Leads Cursor.Outside [l] Cursor.Outside id := by
  intro b c hc
  have hNext : c.next.Outside := hc
  refine ⟨c.next.advance b.debug l, ?_, hNext.advance h.shown h.braces⟩
  rw [value_mergeLines_singleton, hNext.role_eq h.shown, h.nothing]
  rfl

theorem leads_import (hKind : Line.topLevel l = .importing) (hBraces : Line.braceDelta l = 0)
    (hShown : Line.startsRegion l = false) :
    Leads Cursor.Outside [l] Cursor.Outside (·.addImport l) := by
  intro b c hc
  have hNext : c.next.Outside := hc
  refine ⟨c.next.advance b.debug l, ?_, hNext.advance hShown hBraces⟩
  rw [value_mergeLines_singleton, hNext.role_eq hShown, hKind]
  rfl

theorem value_declare (b : Bundle) (n : Text) : (b.declare n).value = b.addNamespace n := by
  rw [Bundle.declare_eq, Bundle.addNamespace]
  split <;> rfl

theorem leads_declaration (hName : Line.IsName n) (hBraces : Line.braceDelta n = 0)
    (hShown : Line.startsRegion n = false) :
    Leads Cursor.Outside [Line.declarationOf n] (Cursor.Inside n 1) (·.addNamespace n) := by
  intro b c hc
  have hNext : c.next.Outside := hc
  have hLine := Line.startsRegion_declarationOf hShown
  have hRole : c.next.role b.debug (Line.declarationOf n) = .declaration n := by
    rw [hNext.role_eq hLine, Line.topLevel_declarationOf hName]
  refine ⟨c.next.advance b.debug (Line.declarationOf n), ?_, ?_, ?_,
    Cursor.region_advance hNext.2 hLine⟩
  · rw [value_mergeLines_singleton, hRole]
    exact congrArg (·, _) (value_declare b n)
  · rw [Cursor.advance, hRole]
    rfl
  · rw [Cursor.advance, depthAfter, hNext.1, Line.braceDelta_declarationOf, hBraces]
    rfl

/-- A line of a block goes to its bucket and moves the depth by its braces. -/
theorem leads_body (hd : d ≠ 0) (hNext : d + Line.braceDelta l ≠ 0)
    (hShown : Line.startsRegion l = false) (hKept : Line.isDirective l = false) :
    Leads (Cursor.Inside n d) [l] (Cursor.Inside n (d + Line.braceDelta l)) (·.addLine n l) := by
  intro b c hc
  have hc' : c.next.Inside n d := hc
  have hRole : c.next.role b.debug l = .body := by
    rw [hc'.role_eq hShown hd, if_neg hNext]
  refine ⟨c.next.advance b.debug l, ?_, ?_, ?_, Cursor.region_advance hc'.2.2 hShown⟩
  · rw [value_mergeLines_singleton, hRole, Bundle.play, Bundle.value_mergeBody, hKept]
    simp [Bundle.addBodyLine_eq, hc'.1]
  · rw [Cursor.advance, hRole]
    exact hc'.1
  · rw [Cursor.advance, depthAfter, hc'.2.1]

theorem leads_closing (n : Text) :
    Leads (Cursor.Inside n 1) ["\x7d".toList] Cursor.Outside id := by
  intro b c hc
  have hc' : c.next.Inside n 1 := hc
  have hShown : Line.startsRegion "\x7d".toList = false := by decide
  have hBraces : Line.braceDelta "\x7d".toList = -1 := by decide
  have hRole : c.next.role b.debug "\x7d".toList = .idle := by
    rw [hc'.role_eq hShown (by decide), hBraces]
    rfl
  refine ⟨c.next.advance b.debug "\x7d".toList, ?_, ?_, Cursor.region_advance hc'.2.2 hShown⟩
  · rw [value_mergeLines_singleton, hRole]
    rfl
  · rw [Cursor.advance, depthAfter, hc'.2.1, hBraces]
    rfl

/-! ### Many lines -/

theorem leads_idles (h : ∀ l ∈ xs, Line.Idle l) : Leads Cursor.Outside xs Cursor.Outside id := by
  induction xs with
  | nil => exact leads_nil _
  | cons l rest ih =>
    have hRest := ih fun m hm => h m (List.mem_cons_of_mem l hm)
    exact (leads_idle (h l List.mem_cons_self)).append hRest

theorem leads_imports (h : ∀ l ∈ xs, Line.topLevel l = .importing ∧ Line.braceDelta l = 0 ∧
      Line.startsRegion l = false) :
    Leads Cursor.Outside xs Cursor.Outside (xs.foldl Bundle.addImport) := by
  induction xs with
  | nil => exact leads_nil _
  | cons l rest ih =>
    obtain ⟨hKind, hBraces, hShown⟩ := h l List.mem_cons_self
    have hRest := ih fun m hm => h m (List.mem_cons_of_mem l hm)
    exact (leads_import hKind hBraces hShown).append hRest

/-- Behind an opening brace, the lines never come back to depth zero, and they end at depth one. -/
def StaysOpen (xs : List Text) : Prop :=
  (∀ i, i ≤ xs.length → 1 + depthBefore xs i ≠ 0) ∧ 1 + depthBefore xs xs.length = 1

instance (xs : List Text) : Decidable (StaysOpen xs) := inferInstanceAs (Decidable (_ ∧ _))

theorem depthBefore_cons_succ (x : Text) (xs : List Text) (i : Nat) :
    depthBefore (x :: xs) (i + 1) = Line.braceDelta x + depthBefore xs i := by
  simp [depthBefore]

/-- The lines of a bucket go to the bucket of the same name as long as their running depth does not
close the block. -/
theorem leads_bodies (hOpen : ∀ i, i ≤ xs.length → d + depthBefore xs i ≠ 0)
    (hLines : ∀ l ∈ xs, Line.startsRegion l = false ∧ Line.isDirective l = false) :
    Leads (Cursor.Inside n d) xs (Cursor.Inside n (d + depthBefore xs xs.length))
      (xs.foldl (Bundle.addLine · n)) := by
  -- The depth moves with every line, so the induction is for all depths at once.
  induction xs generalizing d with
  | nil =>
    rw [List.length_nil, depthBefore_zero, Int.add_zero]
    exact leads_nil _
  | cons l rest ih =>
    have hHere : d ≠ 0 := by simpa using hOpen 0 (Nat.zero_le _)
    have hRest : ∀ i, i ≤ rest.length → d + Line.braceDelta l + depthBefore rest i ≠ 0 := by
      intro i hi
      have hStep := hOpen (i + 1) (Nat.succ_le_succ hi)
      rwa [depthBefore_cons_succ, ← Int.add_assoc] at hStep
    have hNext : d + Line.braceDelta l ≠ 0 := by simpa using hRest 0 (Nat.zero_le _)
    obtain ⟨hShown, hKept⟩ := hLines l List.mem_cons_self
    have hTail := ih hRest fun m hm => hLines m (List.mem_cons_of_mem l hm)
    rw [List.length_cons, depthBefore_cons_succ, ← Int.add_assoc]
    exact (leads_body hHere hNext hShown hKept).append hTail

end Runs

end PluginMerge
