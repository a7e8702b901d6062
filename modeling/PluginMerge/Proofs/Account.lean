import PluginMerge.Proofs.Lookups
import PluginMerge.Proofs.Topic

/-!
# The log accounts for the bundle

Events and changes of a bundle come from different places of a merge: a bucket is made where a
declaration stands, its event is reported behind it; an attribute is reported before anybody knows
whether it will be dropped. Still the log of any stretch of a run tells exactly what the stretch did
to the bundle.

* `Bundle.Accounts b log b'`: the log says how `b` became `b'`.
* `Bundle.Accounts.trans`: stretches one after the other.
* `Bundle.accounts_play`: one line.
* `Bundle.accounts_mergeEach`: any number of files, from any bundle.
-/

namespace PluginMerge.Bundle

/-- The log says how the first bundle became the second. -/
structure Accounts (b : Bundle) (log : List Event) (b' : Bundle) : Prop where
  topics : ∀ e ∈ log, e.topic?.isSome
  namespaces : b'.namespaces.map Event.namespaceAdded =
    b.namespaces.map Event.namespaceAdded ++ about .namespaceAdded log
  dropped : b'.droppedLines = b.droppedLines + (about .lineDropped log).length
  locked : b'.attribution.locked =
    (b.attribution.locked || !(about .attributeInserted log).isEmpty)
  /-- An attribute that is inserted gives the description or finds one that is kept. -/
  kept : (about .attributionKept log).length + b'.attribution.locked.toNat =
    (about .attributeInserted log).length + b.attribution.locked.toNat

variable {b b' b'' : Bundle} {xs ys : List Event}

/-! ## Stretches of a run -/

/-- Nothing is reported where nothing changes that a log tells of. -/
theorem accounts_silent (hNames : b'.namespaces = b.namespaces)
    (hDropped : b'.droppedLines = b.droppedLines)
    (hLocked : b'.attribution.locked = b.attribution.locked) : Accounts b [] b' where
  topics := by simp
  namespaces := by simp [hNames]
  dropped := by simp [hDropped]
  locked := by simp [hLocked]
  kept := by simp [hLocked]

theorem Accounts.trans (h : Accounts b xs b') (h' : Accounts b' ys b'') :
    Accounts b (xs ++ ys) b'' where
  topics := by
    intro e he
    rcases List.mem_append.mp he with hx | hy
    · exact h.topics e hx
    · exact h'.topics e hy
  namespaces := by rw [h'.namespaces, h.namespaces, about_append, List.append_assoc]
  dropped := by
    rw [h'.dropped, h.dropped, about_append, List.length_append]
    omega
  locked := by
    rw [h'.locked, h.locked, about_append, Bool.or_assoc]
    cases about .attributeInserted xs <;> rfl
  kept := by
    have hFirst := h.kept
    have hSecond := h'.kept
    rw [about_append, about_append, List.length_append, List.length_append]
    omega

/-- Of the attributes inserted since there was no description, all but the first come too late to
give one. -/
theorem Accounts.length_kept (h : Accounts b xs b') (hb : b.attribution.locked = false) :
    (about .attributionKept xs).length = (about .attributeInserted xs).length - 1 := by
  have hLocked := h.locked
  have hKept := h.kept
  rw [hLocked, hb] at hKept
  cases hInserted : about .attributeInserted xs with
  | nil =>
    rw [hInserted] at hKept
    exact hKept
  | cons e rest =>
    rw [hInserted] at hKept
    exact Nat.succ.inj hKept

/-- An event that tells of no change. -/
theorem accounts_remark (b : Bundle) {e : Event} {t : Topic} (he : e.topic? = some t)
    (ht : t ∈ [.debugEnabled, .parsing, .lineSkipped, .directiveRefused]) : Accounts b [e] b := by
  simp only [List.mem_cons, List.not_mem_nil, or_false] at ht
  rcases ht with rfl | rfl | rfl | rfl <;> constructor <;> simp [he]

/-! ## One line -/

theorem accounts_declare (b : Bundle) (n : Text) :
    Accounts b (b.declare n).log (b.declare n).value := by
  rw [declare_eq]
  split
  · exact accounts_silent rfl rfl rfl
  · rename_i hHas
    rw [addNamespace, if_neg hHas]
    constructor <;> simp [Event.topic?, Bundle.namespaces]

theorem accounts_addBodyLine (b : Bundle) (c : Cursor) (l : Text) :
    Accounts b (b.addBodyLine c l).log (b.addBodyLine c l).value := by
  rw [addBodyLine_eq]
  split
  · constructor <;> simp [Event.topic?, dropLine, Bundle.namespaces]
  · exact accounts_silent (namespaces_addLine b _ l) rfl rfl

/-- A directive that is carried out leaves its insertion in the log, and the record of an earlier
description if there is one. A refused one leaves the bundle alone. -/
theorem accounts_expand (b : Bundle) (c : Cursor) (l : Text) :
    Accounts b (b.expand c l).log (b.expand c l).value.1 := by
  cases hParse : Directive.parse l with
  | error reason =>
    rw [expand_of_parse_error hParse]
    exact accounts_remark b rfl (by decide)
  | ok info =>
    rw [expand_of_parse_ok hParse]
    cases hLocked : b.attribution.locked <;>
      constructor <;>
      simp [Event.topic?, describe, Attribution.ofInfo, Bundle.namespaces, hLocked]

theorem accounts_mergeBody (b : Bundle) (c : Cursor) (l : Text) :
    Accounts b (b.mergeBody c l).log (b.mergeBody c l).value := by
  unfold mergeBody
  split
  · rw [Logged.log_bind, Logged.value_bind]
    refine (accounts_expand b c l).trans ?_
    generalize (b.expand c l).value = expanded
    obtain ⟨described, replacement⟩ := expanded
    cases replacement with
    | none => exact accounts_silent rfl rfl rfl
    | some line => exact accounts_addBodyLine described c line
  · exact accounts_addBodyLine b c l

theorem accounts_addImport (b : Bundle) (l : Text) : Accounts b [] (b.addImport l) := by
  unfold addImport
  split <;> exact accounts_silent rfl rfl rfl

/-- Whatever role a line plays, its log accounts for what it does to the bundle. -/
theorem accounts_play (b : Bundle) (c : Cursor) (l : Text) (r : Role) :
    Accounts b (b.play c l r).log (b.play c l r).value := by
  cases r with
  | skipped => exact accounts_remark b rfl (by decide)
  | declaration n => exact accounts_declare b n
  | importing => exact accounts_addImport b l
  | body => exact accounts_mergeBody b c l
  | idle => exact accounts_silent rfl rfl rfl

theorem log_mergeLine (b : Bundle) (c : Cursor) (l : Text) :
    (b.mergeLine c l).log = (b.play c l (c.role b.debug l)).log := by
  rw [mergeLine_eq, Logged.log_bind, Logged.log_pure, List.append_nil]

/-! ## Runs -/

/-- The step for one line, carried along any number of lines. -/
theorem accounts_mergeLines (b : Bundle) (c : Cursor) (ls : List Text) :
    Accounts b (b.mergeLines c ls).log (b.mergeLines c ls).value.1 := by
  induction ls generalizing b c with
  | nil => exact accounts_silent rfl rfl rfl
  | cons l rest ih =>
    have hLine := accounts_play b c.next l (c.next.role b.debug l)
    rw [mergeLines, Logged.log_bind, Logged.value_bind, log_mergeLine, value_mergeLine]
    exact hLine.trans (ih _ _)

theorem accounts_mergeFile (b : Bundle) (f : SourceFile) :
    Accounts b (b.mergeFile f).log (b.mergeFile f).value := by
  have hParsing : Accounts b [.parsing f.path] b := accounts_remark b rfl (by decide)
  have hLines := accounts_mergeLines b { path := f.path } f.lines
  exact hParsing.trans (hLines.trans (accounts_silent rfl rfl rfl))

/-- The log of merged files accounts for the bundle, whatever it held before. -/
theorem accounts_mergeEach (b : Bundle) (files : List SourceFile) :
    Accounts b (b.mergeEach files).log (b.mergeEach files).value := by
  induction files generalizing b with
  | nil => exact accounts_silent rfl rfl rfl
  | cons f rest ih => exact (accounts_mergeFile b f).trans (ih _)

end PluginMerge.Bundle
