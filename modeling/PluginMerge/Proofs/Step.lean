import PluginMerge.Merge

/-!
# One line of a merge

A line that is merged moves the cursor and changes the bundle. The two are independent: how the
cursor moves is decided by the cursor and the line, and the bundle takes part in it only through
the flag that switches debugging on, which no line changes.

* `Cursor.role`: what a line is at the cursor.
* `Cursor.advance`: the cursor behind the line.
* `Bundle.mergeLine_eq`: a merged line plays its role and moves the cursor. Later proofs split on
  the role and do not unfold `Bundle.mergeLine`.
* `Cursor.role_eq_skipped_iff`: which lines are left out.
-/

namespace PluginMerge

/-- What a line is at its position. -/
inductive Role where
  /-- It lies in a debug region and is left out. -/
  | skipped
  /-- It declares the namespace of this name. -/
  | declaration (name : Text)
  /-- It is an import. -/
  | importing
  /-- It belongs to the bucket of the current namespace. -/
  | body
  /-- It counts and contributes nothing. -/
  | idle
  deriving DecidableEq, Repr

/-- The namespace behind a line that plays this role. -/
def Role.current (r : Role) (before : Option Text) : Option Text :=
  match r with
  | .declaration name => some name
  | _ => before

namespace Cursor

def role (c : Cursor) (debug : Bool) (l : Text) : Role :=
  if (c.region.enter l).retains debug then
    if c.depth = 0 then
      match Line.topLevel l with
      | .declaration name => .declaration name
      | .importing => .importing
      | .nothing => .idle
    else if depthAfter c.depth l = 0 then .idle
    else .body
  else .skipped

def advance (c : Cursor) (debug : Bool) (l : Text) : Cursor :=
  { c with
    current := (c.role debug l).current c.current
    depth := depthAfter c.depth l
    region := (c.region.enter l).leave l }

theorem role_eq_skipped_iff {c : Cursor} {debug : Bool} {l : Text} :
    c.role debug l = .skipped ↔ (c.region.enter l).retains debug = false := by
  unfold role
  by_cases hr : (c.region.enter l).retains debug = true
  · rw [if_pos hr, hr]
    refine iff_of_false ?_ (by simp)
    split
    · split <;> simp
    · split <;> simp
  · rw [if_neg hr]
    simpa using hr

theorem role_congr {c c' : Cursor} {debug : Bool} {l : Text}
    (hEnter : c.region.enter l = c'.region.enter l) (hDepth : c.depth = c'.depth) :
    c.role debug l = c'.role debug l := by
  simp only [role, hEnter, hDepth]

end Cursor

namespace Bundle

section Generic

variable {m : Type → Type} [Monad m] [Journal m] [LookUps m]

/-- The bundle behind a line that plays the given role at the cursor. -/
def play (b : Bundle) (c : Cursor) (l : Text) : Role → m Bundle
  | .skipped => do
    report (.lineSkipped c.path c.line)
    pure b
  | .declaration name => b.declare name
  | .importing => pure (b.addImport l)
  | .body => b.mergeBody c l
  | .idle => pure b

variable [LawfulMonad m]

theorem mergeTopLevel_eq {b : Bundle} {c : Cursor} {l : Text} {debug : Bool}
    (hr : (c.region.enter l).retains debug = true) (hd : c.depth = 0) :
    (b.mergeTopLevel c l : m (Bundle × Option Text)) =
      b.play c l (c.role debug l) >>= fun b => pure (b, (c.role debug l).current c.current) := by
  unfold mergeTopLevel Cursor.role
  rw [if_pos hr, if_pos hd]
  cases Line.topLevel l with
  | declaration name => rfl
  | importing => simp only [play, pure_bind, Role.current]
  | nothing => simp only [play, pure_bind, Role.current]

/-- A retained line plays its role, at any depth. -/
theorem mergeRetained_eq {b : Bundle} {c : Cursor} {l : Text} {debug : Bool}
    (hr : (c.region.enter l).retains debug = true) :
    (b.mergeRetained c l : m (Bundle × Option Text)) =
      b.play c l (c.role debug l) >>= fun b => pure (b, (c.role debug l).current c.current) := by
  unfold mergeRetained
  by_cases hd : c.depth = 0
  · rw [if_pos hd]
    exact mergeTopLevel_eq hr hd
  · rw [if_neg hd]
    unfold Cursor.role
    rw [if_pos hr, if_neg hd]
    split
    · simp only [play, pure_bind, Role.current]
    · rfl

/-- A merged line plays its role and moves the cursor, in every monad that a merge can run in. -/
theorem mergeLine_eq (b : Bundle) (c : Cursor) (l : Text) :
    (b.mergeLine c l : m (Bundle × Cursor)) =
      b.play c l (c.role b.debug l) >>= fun b' => pure (b', c.advance b.debug l) := by
  unfold mergeLine
  by_cases hr : (c.region.enter l).retains b.debug = true
  · simp only [hr, if_true, mergeRetained_eq (m := m) hr, bind_assoc, pure_bind, Cursor.advance]
  · have hs : c.role b.debug l = .skipped :=
      Cursor.role_eq_skipped_iff.mpr (by simpa using hr)
    simp only [hr, Bool.false_eq_true, if_false, Cursor.advance, hs, play, bind_assoc, pure_bind,
      Role.current]

theorem mergeLines_take_succ (b : Bundle) (c : Cursor) {ls : List Text} {l : Text} {i : Nat}
    (hl : ls[i]? = some l) :
    (b.mergeLines c (ls.take (i + 1)) : m (Bundle × Cursor)) =
      b.mergeLines c (ls.take i) >>= fun r => r.1.mergeLine r.2.next l := by
  rw [List.take_add_one, hl, Option.toList_some, mergeLines_append]
  exact congrArg _ (funext fun r => bind_pure (r.1.mergeLine r.2.next l))

end Generic

/-- A line changes the bundle by its role, and the cursor advances independently of the bundle. -/
theorem value_mergeLine (b : Bundle) (c : Cursor) (l : Text) :
    (b.mergeLine c l).value =
      ((b.play c l (c.role b.debug l)).value, c.advance b.debug l) := by
  rw [mergeLine_eq]
  rfl

/-! ## The parts of a line with their events -/

/-- A look-up of a bucket stands in with the bundle itself, and so does a line for a bucket that is
missing. -/
theorem getD_addLine? (b : Bundle) (name l : Text) :
    (b.addLine? name l).getD b = b.addLine name l := by
  unfold addLine?
  split
  · rfl
  · rename_i hHas
    have hAway : ∀ x ∈ b.buckets, x.1 ≠ name := by
      rintro x hx rfl
      exact hHas (List.contains_iff_mem.mpr (List.mem_map_of_mem hx))
    have hSame : (b.buckets.map fun x => if x.1 = name then (x.1, x.2 ++ [l]) else x) =
        b.buckets := by
      refine (List.map_congr_left fun x hx => ?_).trans (List.map_id _)
      exact if_neg (hAway x hx)
    rw [addLine, hSame]
    rfl

theorem addBodyLine_eq (b : Bundle) (c : Cursor) (l : Text) :
    b.addBodyLine c l =
      match c.current with
      | none => ⟨b.dropLine, [.lineDropped c.path c.line l]⟩
      | some name => pure (b.addLine name l) := by
  unfold addBodyLine
  cases c.current with
  | none => rfl
  | some name =>
    dsimp only
    rw [Logged.lookUp_eq, getD_addLine?]

theorem declare_eq (b : Bundle) (name : Text) :
    b.declare name =
      if b.hasNamespace name then pure b else ⟨b.addNamespace name, [.namespaceAdded name]⟩ := rfl

/-- A directive that is refused leaves nothing but an event. -/
theorem expand_of_parse_error {b : Bundle} {c : Cursor} {l : Text} {reason : Directive.Refusal}
    (h : Directive.parse l = .error reason) :
    b.expand c l = ⟨(b, none), [.directiveRefused l reason]⟩ := by
  simp only [expand, readDirective, Directive.kindAndWords_of_parse_error h]
  rfl

/-- A directive that is carried out describes the plugin, if nothing does so yet, and is replaced by
its attribute. -/
theorem expand_of_parse_ok {b : Bundle} {c : Cursor} {l : Text} {info : PluginInfo}
    (h : Directive.parse l = .ok info) :
    b.expand c l =
      ⟨(b.describe info, some (b.infoAttribute (Directive.indent l) info)),
        (if b.attribution.locked then [.attributionKept b.attribution.author] else []) ++
          [.attributeInserted c.path c.line]⟩ := by
  have hHandler : handlers.lookup Directive.Kind.pluginInfo = some applyInfo := rfl
  simp only [expand, readDirective, Directive.kindAndWords_of_parse_ok h, pure_bind,
    Logged.lookUp_eq, hHandler, Option.getD_some, applyInfo]
  cases b.attribution.locked <;> rfl

/-! ## What no line changes -/

@[simp] theorem debug_addBodyLine (b : Bundle) (c : Cursor) (l : Text) :
    (b.addBodyLine c l).value.debug = b.debug := by
  rw [addBodyLine_eq]
  split <;> rfl

@[simp] theorem debug_declare (b : Bundle) (name : Text) :
    (b.declare name).value.debug = b.debug := by
  rw [declare_eq]
  unfold addNamespace
  split <;> rfl

@[simp] theorem debug_addImport (b : Bundle) (l : Text) : (b.addImport l).debug = b.debug := by
  unfold addImport
  split <;> rfl

@[simp] theorem debug_describe (b : Bundle) (info : PluginInfo) :
    (b.describe info).debug = b.debug := by
  unfold describe
  split <;> rfl

theorem value_expand_ok {b : Bundle} {c : Cursor} {l : Text} {info : PluginInfo}
    (h : Directive.parse l = .ok info) :
    (b.expand c l).value =
      (b.describe info, some (b.infoAttribute (Directive.indent l) info)) := by
  rw [expand_of_parse_ok h]

theorem value_expand_error {b : Bundle} {c : Cursor} {l : Text} {reason : Directive.Refusal}
    (h : Directive.parse l = .error reason) : (b.expand c l).value = (b, none) := by
  rw [expand_of_parse_error h]

/-- The value of a line between braces: a directive that can be carried out describes the plugin
and is replaced by its attribute, any other directive vanishes, and all else is kept. -/
theorem value_mergeBody (b : Bundle) (c : Cursor) (l : Text) :
    (b.mergeBody c l).value =
      if Line.isDirective l then
        match Directive.parse l with
        | .ok info =>
          ((b.describe info).addBodyLine c (b.infoAttribute (Directive.indent l) info)).value
        | .error _ => b
      else (b.addBodyLine c l).value := by
  unfold mergeBody
  split
  · cases h : Directive.parse l with
    | ok info => simp [value_expand_ok h]
    | error reason => simp [value_expand_error h]
  · rfl

/-- Of the cursor, only the namespace takes part in what a role does to the bundle. -/
theorem value_play_congr {b : Bundle} {c c' : Cursor} {l : Text} {r : Role}
    (h : c.current = c'.current) : (b.play c l r).value = (b.play c' l r).value := by
  have hLine : ∀ (b : Bundle) (l : Text),
      (b.addBodyLine c l).value = (b.addBodyLine c' l).value := by
    intro b l
    rw [addBodyLine_eq, addBodyLine_eq, h]
    cases c'.current <;> rfl
  cases r with
  | body => simp only [play, value_mergeBody, hLine]
  | _ => rfl

@[simp] theorem debug_mergeBody (b : Bundle) (c : Cursor) (l : Text) :
    (b.mergeBody c l).value.debug = b.debug := by
  rw [value_mergeBody]
  split
  · split <;> simp
  · simp

@[simp] theorem debug_play (b : Bundle) (c : Cursor) (l : Text) (r : Role) :
    (b.play c l r).value.debug = b.debug := by
  cases r with
  | declaration name => exact debug_declare b name
  | importing => exact debug_addImport b l
  | body => exact debug_mergeBody b c l
  | _ => rfl

theorem debug_mergeLines (b : Bundle) (c : Cursor) (ls : List Text) :
    (b.mergeLines c ls).value.1.debug = b.debug := by
  induction ls generalizing b c with
  | nil => rfl
  | cons l rest ih =>
    rw [mergeLines, Logged.value_bind, value_mergeLine]
    exact (ih _ _).trans (debug_play b c.next l _)

/-- Merging never switches debugging on or off: the flag is fixed before the first file. -/
theorem debug_mergeFile (b : Bundle) (f : SourceFile) :
    (b.mergeFile f).value.debug = b.debug :=
  debug_mergeLines b { path := f.path } f.lines

end Bundle

end PluginMerge
