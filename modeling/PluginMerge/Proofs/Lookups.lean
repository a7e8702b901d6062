import Mathlib.Data.List.Basic
import PluginMerge.Proofs.Step

/-!
# Look-ups that never fail

A merge looks things up in three places: the bucket of the current namespace, what is to be done for
a kind of directive, and the three words of a directive that describes a plugin. The steps of a
merge are written for every monad that can look things up. Among the optional values a look-up that
finds nothing ends the merge. It never does: the merge always has a result there, and it is the
same as where something stands in for what is missing.

The bucket is found because of a fact about two values that change separately: the namespace at the
cursor always has a bucket in the bundle.

* `Bundle.HasCurrent`: the namespace at the cursor has a bucket. `Bundle.HasCurrent.mergeLine` is
  one line, `Bundle.HasCurrent.mergeLines` any number of them.
* `Bundle.expand_eq_some`, `Bundle.mergeFile_eq_some`: no look-up fails.
-/

namespace PluginMerge

/-- Optional values keep no events. -/
instance : Journal Option where
  report _ := some ()

/-- Nothing stands in for what a look-up does not find. -/
instance : LookUps Option where
  lookUp found _ := found

namespace Bundle

variable {b : Bundle} {c : Cursor} {l n : Text}

/-- A directive has the words that its kind takes, and each kind has something to be done. -/
theorem expand_eq_some (b : Bundle) (c : Cursor) (l : Text) :
    (b.expand c l : Option (Bundle × Option Text)) = some (b.expand c l).value := by
  cases hParse : Directive.parse l with
  | error reason =>
    rw [value_expand_error hParse]
    simp only [expand, readDirective, Directive.kindAndWords_of_parse_error hParse]
    rfl
  | ok info =>
    rw [value_expand_ok hParse]
    simp only [expand, readDirective, Directive.kindAndWords_of_parse_ok hParse]
    have hApplied : (b.applyInfo (Directive.indent l) info.words : Option (Bundle × Option Text)) =
        some (b.describe info, some (b.infoAttribute (Directive.indent l) info)) := by
      rw [applyInfo]
      cases b.attribution.locked <;> rfl
    change (b.applyInfo (Directive.indent l) info.words : Option (Bundle × Option Text)) >>= _ = _
    rw [hApplied]
    rfl

/-! ## The namespace at the cursor -/

/-- The namespace at the cursor, if there is one, has a bucket. -/
def HasCurrent (b : Bundle) (c : Cursor) : Prop := ∀ n, c.current = some n → n ∈ b.namespaces

theorem hasCurrent_fresh (b : Bundle) (path : Text) : b.HasCurrent { path } := by
  intro n hn
  cases hn

theorem namespaces_addLine (b : Bundle) (name l : Text) :
    (b.addLine name l).namespaces = b.namespaces := by
  simp only [addLine, namespaces, List.map_map]
  refine List.map_congr_left fun x _ => ?_
  by_cases hx : x.1 = name <;> simp [hx]

theorem namespaces_addBodyLine (b : Bundle) (c : Cursor) (l : Text) :
    (b.addBodyLine c l).value.namespaces = b.namespaces := by
  rw [addBodyLine_eq]
  split
  · rfl
  · exact namespaces_addLine b _ l

theorem namespaces_describe (b : Bundle) (info : PluginInfo) :
    (b.describe info).namespaces = b.namespaces := by
  unfold describe
  split <;> rfl

theorem namespaces_mergeBody (b : Bundle) (c : Cursor) (l : Text) :
    (b.mergeBody c l).value.namespaces = b.namespaces := by
  rw [value_mergeBody]
  split
  · split
    · rw [namespaces_addBodyLine, namespaces_describe]
    · rfl
  · exact namespaces_addBodyLine b c l

/-- A declared namespace has a bucket from then on, and no other bucket appears. -/
theorem mem_namespaces_declare : n ∈ (b.declare l).value.namespaces ↔ n ∈ b.namespaces ∨ n = l := by
  rw [declare_eq]
  split
  · rename_i hHas
    have hMem : l ∈ b.namespaces := by simpa [hasNamespace] using hHas
    refine ⟨Or.inl, ?_⟩
    rintro (h | rfl)
    · exact h
    · exact hMem
  · rename_i hHas
    simp only [addNamespace, if_neg hHas]
    simp [namespaces]

/-- A line keeps all buckets, and a declaration adds its own. -/
theorem HasCurrent.advance (h : b.HasCurrent c) (debug : Bool) (l : Text) :
    (b.play c l (c.role debug l)).value.HasCurrent (c.advance debug l) := by
  intro n hn
  unfold Cursor.advance at hn
  cases hRole : c.role debug l with
  | declaration name =>
    rw [hRole] at hn
    cases hn
    exact mem_namespaces_declare.mpr (Or.inr rfl)
  | body =>
    rw [hRole] at hn
    rw [play, namespaces_mergeBody]
    exact h n hn
  | importing =>
    rw [hRole] at hn
    have hSame : (b.addImport l).namespaces = b.namespaces := by
      unfold addImport
      split <;> rfl
    exact hSame ▸ h n hn
  | skipped => rw [hRole] at hn; exact h n hn
  | idle => rw [hRole] at hn; exact h n hn

theorem HasCurrent.mergeLine (h : b.HasCurrent c) (l : Text) :
    (b.mergeLine c l).value.1.HasCurrent (b.mergeLine c l).value.2 := by
  rw [value_mergeLine]
  exact h.advance b.debug l

theorem HasCurrent.mergeLines (h : b.HasCurrent c) (ls : List Text) :
    (b.mergeLines c ls).value.1.HasCurrent (b.mergeLines c ls).value.2 := by
  induction ls generalizing b c with
  | nil => exact h
  | cons l rest ih =>
    have hNext : b.HasCurrent c.next := h
    exact ih (hNext.mergeLine l)

/-! ## No look-up fails -/

/-- The one look-up that could fail: the bucket for a line between braces. -/
theorem HasCurrent.addBodyLine_eq_some (h : b.HasCurrent c) (l : Text) :
    (b.addBodyLine c l : Option Bundle) = some (b.addBodyLine c l).value := by
  rw [addBodyLine_eq]
  unfold addBodyLine
  cases hCurrent : c.current with
  | none => rfl
  | some name =>
    have hHas : b.hasNamespace name = true := by simpa [hasNamespace] using h name hCurrent
    exact if_pos hHas

theorem HasCurrent.mergeBody_eq_some (h : b.HasCurrent c) (l : Text) :
    (b.mergeBody c l : Option Bundle) = some (b.mergeBody c l).value := by
  unfold mergeBody
  split
  · rw [expand_eq_some b c l, Logged.value_bind]
    cases hParse : Directive.parse l with
    | error reason => rw [value_expand_error hParse]; rfl
    | ok info =>
      have hDescribed : (b.describe info).HasCurrent c := by
        intro n hn
        rw [namespaces_describe]
        exact h n hn
      rw [value_expand_ok hParse]
      exact hDescribed.addBodyLine_eq_some _
  · exact h.addBodyLine_eq_some l

/-- Of all the roles of a line, only a line between braces looks something up. -/
theorem HasCurrent.play_eq_some (h : b.HasCurrent c) (l : Text) (r : Role) :
    (b.play c l r : Option Bundle) = some (b.play c l r).value := by
  cases r with
  | body => exact h.mergeBody_eq_some l
  | declaration name =>
    rw [play, play, declare, declare]
    split <;> rfl
  | _ => rfl

theorem HasCurrent.mergeLine_eq_some (h : b.HasCurrent c) (l : Text) :
    (b.mergeLine c l : Option (Bundle × Cursor)) = some (b.mergeLine c l).value := by
  rw [Bundle.mergeLine_eq, h.play_eq_some, value_mergeLine]
  rfl

theorem HasCurrent.mergeLines_eq_some (h : b.HasCurrent c) (ls : List Text) :
    (b.mergeLines c ls : Option (Bundle × Cursor)) = some (b.mergeLines c ls).value := by
  induction ls generalizing b c with
  | nil => rfl
  | cons l rest ih =>
    have hNext : b.HasCurrent c.next := h
    rw [Bundle.mergeLines, hNext.mergeLine_eq_some l, Bundle.mergeLines, Logged.value_bind]
    exact ih (hNext.mergeLine l)

/-- No look-up fails while a file is merged, whatever the bundle and the lines. -/
theorem mergeFile_eq_some (b : Bundle) (f : SourceFile) :
    (b.mergeFile f : Option Bundle) = some (b.mergeFile f).value := by
  rw [mergeFile, (hasCurrent_fresh b f.path).mergeLines_eq_some f.lines]
  rfl

end Bundle

end PluginMerge
