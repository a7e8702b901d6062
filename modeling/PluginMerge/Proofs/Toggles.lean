import PluginMerge.Proofs.Declaration
import PluginMerge.Proofs.Locating
import PluginMerge.Proofs.SmallLetters

/-!
# Toggles in the environment

The build time is left out if the command line says so; otherwise one variable of the environment
decides. Its text counts without the blanks around it and in small letters. None of the words that a
toggle can hold has a letter that a foreign character could become, so lowering the basic letters
alone gives the same answer, and neither blanks nor the case of basic letters matter.

* `Text.isStripped_iff`: texts without the blanks around them.
* `toggleWord_eq_iff`: when the text of a toggle is one of the words.
* `Varies`, `Varies.toOption_parseToggle`: texts with other blanks around them or other cases.
* `Environment.Decides`: the variable that decides, with its text.
* `Settings.resolve_timestamp`: which setting the build gets, and when it gets none.
-/

namespace PluginMerge

namespace Text

/-! ## Texts without the blanks around them -/

/-- The text `core` is what is left of `s` without the blanks at its two ends. -/
def IsStripped (s core : Text) : Prop :=
  ∃ front back, s = front ++ core ++ back ∧ (∀ c ∈ front, isBlank c = true) ∧
    (∀ c ∈ back, isBlank c = true) ∧ (∀ c ∈ core.head?, isBlank c = false) ∧
    ∀ c ∈ core.getLast?, isBlank c = false

theorem trim_eq_self {p : Char → Bool} {s : Text} (hHead : ∀ c ∈ s.head?, p c = false)
    (hLast : ∀ c ∈ s.getLast?, p c = false) : trim p s = s := by
  have hFront : s.dropWhile p = s := by
    rw [List.dropWhile_eq_self_iff]
    intro hPos
    simpa using hHead _ (List.head?_eq_getElem? ▸ List.getElem?_eq_getElem hPos)
  have hBack : s.reverse.dropWhile p = s.reverse := by
    rw [List.dropWhile_eq_self_iff]
    intro hPos
    have hc := List.getElem?_eq_getElem hPos
    rw [← List.head?_eq_getElem?, List.head?_reverse] at hc
    simpa using hLast _ hc
  rw [trim, hFront, hBack, List.reverse_reverse]

theorem isStripped_iff {s core : Text} : IsStripped s core ↔ core = strip s := by
  constructor
  · rintro ⟨front, back, rfl, hFront, hBack, hHead, hLast⟩
    rw [strip, trim_append hFront hBack, trim_eq_self hHead hLast]
  · rintro rfl
    -- The blanks in front are cut off first, and then those behind.
    have hBehind : strip s ++ ((s.dropWhile isBlank).reverse.takeWhile isBlank).reverse =
        s.dropWhile isBlank := by
      rw [strip, trim, ← List.reverse_append, List.takeWhile_append_dropWhile, List.reverse_reverse]
    refine ⟨s.takeWhile isBlank, ((s.dropWhile isBlank).reverse.takeWhile isBlank).reverse, ?_,
      fun c hc => List.mem_takeWhile_imp hc,
      fun c hc => List.mem_takeWhile_imp (List.mem_reverse.mp hc), fun c hc => ?_,
      getLast?_trim isBlank s⟩
    · rw [List.append_assoc, hBehind, List.takeWhile_append_dropWhile]
    · obtain ⟨rest, hStrip⟩ := List.head?_eq_some_iff.mp hc
      have hHead := List.head?_dropWhile_not isBlank s
      rw [← hBehind, hStrip] at hHead
      exact hHead

end Text

/-! ## Words of toggles -/

open Text

variable {raw raw' : Text} {name name' : Text}

theorem isPlain_of_mem_words {w : Text} (hw : w ∈ onWords ++ offWords) : ∀ c ∈ w, IsPlain c := by
  have hAll : ((onWords ++ offWords).all fun w => w.all fun c => decide (IsPlain c)) = true := by
    decide
  intro c hc
  exact of_decide_eq_true (List.all_eq_true.mp (List.all_eq_true.mp hAll w hw) c hc)

/-- A word counts up to blanks around it and the case of basic letters. -/
theorem toggleWord_eq_iff {w : Text} (hw : w ∈ onWords ++ offWords) :
    toggleWord raw = w ↔ (strip raw).map Char.toLower = w :=
  lowercase_eq_iff (isPlain_of_mem_words hw) (strip raw)

/-- For the words that count, lowering the basic letters is enough. -/
theorem toggleWord_mem_iff {words : List Text} (hWords : words ⊆ onWords ++ offWords) :
    toggleWord raw ∈ words ↔ (strip raw).map Char.toLower ∈ words := by
  constructor
  · intro h
    rwa [(toggleWord_eq_iff (hWords h)).mp rfl]
  · intro h
    rwa [(toggleWord_eq_iff (hWords h)).mpr rfl]

theorem parseToggle_eq_ok_true_iff :
    parseToggle name raw = .ok true ↔ toggleWord raw ∈ onWords := by
  unfold parseToggle
  split_ifs with hOn hOff <;> simp_all

/-- No word switches on and off. -/
theorem disjoint_words : ∀ w ∈ offWords, w ∉ onWords := by
  decide

theorem parseToggle_eq_ok_false_iff :
    parseToggle name raw = .ok false ↔ toggleWord raw ∈ offWords := by
  have hDisjoint := disjoint_words (toggleWord raw)
  unfold parseToggle
  split_ifs with hOn hOff <;> simp_all

/-- A value that is no known word is refused with the name of its variable. -/
theorem parseToggle_eq_error_iff {cause : Failure} :
    parseToggle name raw = .error cause ↔
      toggleWord raw ∉ onWords ++ offWords ∧ cause = .invalidToggle name raw := by
  unfold parseToggle
  split_ifs with hOn hOff <;> simp_all [eq_comm]

/-! ## Other blanks and other cases -/

/-- The text `raw'` is `raw` with some basic letters in the other case and with blanks around it. -/
def Varies (raw raw' : Text) : Prop :=
  ∃ front core back, raw' = front ++ core ++ back ∧ (∀ c ∈ front, isBlank c = true) ∧
    (∀ c ∈ back, isBlank c = true) ∧ core.map Char.toLower = raw.map Char.toLower

theorem Varies.map_strip (h : Varies raw raw') :
    (strip raw').map Char.toLower = (strip raw).map Char.toLower := by
  obtain ⟨front, core, back, rfl, hFront, hBack, hCore⟩ := h
  rw [strip, trim_append hFront hBack, ← strip, ← strip_map_toLower, hCore, strip_map_toLower]

theorem Varies.parseToggle_eq_ok_iff (h : Varies raw raw') {value : Bool} :
    parseToggle name' raw' = .ok value ↔ parseToggle name raw = .ok value := by
  cases value with
  | true =>
    have hWords : onWords ⊆ onWords ++ offWords := List.subset_append_left _ _
    rw [parseToggle_eq_ok_true_iff, parseToggle_eq_ok_true_iff, toggleWord_mem_iff hWords,
      toggleWord_mem_iff hWords, h.map_strip]
  | false =>
    have hWords : offWords ⊆ onWords ++ offWords := List.subset_append_right _ _
    rw [parseToggle_eq_ok_false_iff, parseToggle_eq_ok_false_iff, toggleWord_mem_iff hWords,
      toggleWord_mem_iff hWords, h.map_strip]

/-- Variants of a value are the same choice, or are both refused. -/
theorem Varies.toOption_parseToggle (h : Varies raw raw') :
    (parseToggle name' raw').toOption = (parseToggle name raw).toOption := by
  cases hToggle : parseToggle name raw with
  | ok value => rw [h.parseToggle_eq_ok_iff.mpr hToggle]
  | error cause =>
    cases hToggle' : parseToggle name' raw' with
    | ok value =>
      rw [h.parseToggle_eq_ok_iff.mp hToggle'] at hToggle
      cases hToggle
    | error cause' => rfl

/-! ## The variable that decides -/

namespace Environment

variable {env : Environment}

/-- The variable that decides about the build time, with its text: the program's own one if it is
set at all, otherwise the general one. -/
inductive Decides (env : Environment) : Text → Text → Prop
  | own {text : Text} (h : env.lookup "OXIFY_DISABLE_BUILD_TIMESTAMP".toList = some text) :
      Decides env "OXIFY_DISABLE_BUILD_TIMESTAMP".toList text
  | general {text : Text} (hOwn : env.lookup "OXIFY_DISABLE_BUILD_TIMESTAMP".toList = none)
      (h : env.lookup "DISABLE_BUILD_TIMESTAMP".toList = some text) :
      Decides env "DISABLE_BUILD_TIMESTAMP".toList text

/-- Neither of the two variables is set. -/
def Silent (env : Environment) : Prop :=
  env.lookup "OXIFY_DISABLE_BUILD_TIMESTAMP".toList = none ∧
    env.lookup "DISABLE_BUILD_TIMESTAMP".toList = none

theorem Decides.firstSet?_eq (h : env.Decides name raw) :
    env.firstSet? timestampVariables = some (name, raw) := by
  unfold firstSet? timestampVariables
  cases h with
  | own h => rw [List.findSome?_cons, h]; rfl
  | general hOwn h => rw [List.findSome?_cons, hOwn, Option.map_none, List.findSome?_cons, h]; rfl

theorem Silent.firstSet?_eq (h : env.Silent) : env.firstSet? timestampVariables = none := by
  unfold firstSet? timestampVariables
  rw [List.findSome?_cons, h.1, Option.map_none, List.findSome?_cons, h.2]
  rfl

theorem Decides.unique (h : env.Decides name raw) (h' : env.Decides name' raw') :
    name' = name ∧ raw' = raw := by
  have hSame := h'.firstSet?_eq.symm.trans h.firstSet?_eq
  exact Prod.mk.inj (Option.some_inj.mp hSame)

theorem Silent.not_decides (h : env.Silent) : ¬ env.Decides name raw := by
  intro hDecides
  have hNone := h.firstSet?_eq.symm.trans hDecides.firstSet?_eq
  cases hNone

theorem silent_or_decides (env : Environment) : env.Silent ∨ ∃ name raw, env.Decides name raw := by
  cases hOwn : env.lookup "OXIFY_DISABLE_BUILD_TIMESTAMP".toList with
  | some raw => exact Or.inr ⟨_, raw, .own hOwn⟩
  | none =>
    cases h : env.lookup "DISABLE_BUILD_TIMESTAMP".toList with
    | some raw => exact Or.inr ⟨_, raw, .general hOwn h⟩
    | none => exact Or.inl ⟨hOwn, h⟩

theorem Decides.timestampSetting_eq (h : env.Decides name raw) :
    timestampSetting false env = (parseToggle name raw).map fun value => (value, .environment) := by
  unfold timestampSetting
  rw [h.firstSet?_eq]
  rfl

theorem Silent.timestampSetting_eq (h : env.Silent) :
    timestampSetting false env = .ok (false, .standard) := by
  unfold timestampSetting
  rw [h.firstSet?_eq]
  rfl

end Environment

namespace Settings

variable (d : WorkingDirectory) {env env' : Environment} (t : Threshold) (r : Request)

/-- Whether the settings leave the build time out, and what decided it. -/
def timestamp (s : Settings) : Bool × Origin := (s.disableTimestamp, s.timestampOrigin)

/-- The timestamp of the resolved settings depends on the option and the environment only. -/
theorem map_timestamp_resolve (env : Environment) :
    (resolve d.path env t r).map timestamp = timestampSetting r.disableTimestamp env := by
  rw [resolve_workingDirectory]
  cases timestampSetting r.disableTimestamp env <;> rfl

/-- Resolving fails for the timestamp and for nothing else. -/
theorem resolve_eq_error_iff {cause : Failure} :
    resolve d.path env t r = .error cause ↔
      timestampSetting r.disableTimestamp env = .error cause := by
  rw [resolve_workingDirectory]
  cases timestampSetting r.disableTimestamp env <;> simp [Except.map]

theorem toOption_map {α β : Type} (x : Except Failure α) (f : α → β) :
    (x.map f).toOption = x.toOption.map f := by
  cases x <;> rfl

theorem toOption_resolve_of_varies {name name' raw raw' : Text} (h : env.Decides name raw)
    (h' : env'.Decides name' raw') (hVaries : Varies raw raw') :
    (resolve d.path env' t r).toOption = (resolve d.path env t r).toOption := by
  have hSetting : (timestampSetting r.disableTimestamp env').toOption =
      (timestampSetting r.disableTimestamp env).toOption := by
    cases r.disableTimestamp with
    | true => rfl
    | false =>
      have hToggle : (parseToggle name' raw').toOption = (parseToggle name raw).toOption :=
        hVaries.toOption_parseToggle
      rw [h.timestampSetting_eq, h'.timestampSetting_eq, toOption_map, toOption_map, hToggle]
  rw [resolve_workingDirectory, resolve_workingDirectory, toOption_map, toOption_map, hSetting]

theorem resolve_of_decides {name raw : Text} (h : env.Decides name raw)
    (h' : env'.Decides name raw) : resolve d.path env' t r = resolve d.path env t r := by
  have hSetting : timestampSetting r.disableTimestamp env' =
      timestampSetting r.disableTimestamp env := by
    unfold timestampSetting
    rw [h.firstSet?_eq, h'.firstSet?_eq]
  rw [resolve_workingDirectory, resolve_workingDirectory, hSetting]

/-- The setting is refused if and only if no option overrides it and the deciding variable holds no
known word. -/
theorem timestampSetting_eq_error_iff {flag : Bool} {cause : Failure} :
    timestampSetting flag env = .error cause ↔
      flag = false ∧ ∃ name raw, env.Decides name raw ∧ toggleWord raw ∉ onWords ++ offWords ∧
        cause = .invalidToggle name raw := by
  cases flag with
  | true => simp [timestampSetting]
  | false =>
    rcases env.silent_or_decides with hSilent | ⟨name, raw, hDecides⟩
    · rw [hSilent.timestampSetting_eq]
      constructor
      · intro h
        cases h
      · rintro ⟨-, name, raw, hDecides, -⟩
        exact absurd hDecides hSilent.not_decides
    · rw [hDecides.timestampSetting_eq]
      have hMap : (parseToggle name raw).map (fun value => (value, Origin.environment)) =
          .error cause ↔ parseToggle name raw = .error cause := by
        cases parseToggle name raw <;> simp [Except.map]
      rw [hMap, parseToggle_eq_error_iff]
      constructor
      · rintro ⟨hWord, hCause⟩
        exact ⟨rfl, name, raw, hDecides, hWord, hCause⟩
      · rintro ⟨-, name', raw', hDecides', hWord, hCause⟩
        obtain ⟨rfl, rfl⟩ := hDecides.unique hDecides'
        exact ⟨hWord, hCause⟩

/-- **The setting of the build time.** On the command line it masks the environment. Otherwise the
variable that decides gives the setting, and without one the build time is shown. The settings fail
exactly if the deciding variable holds none of the words, up to blanks around it and in small
letters. What the other variable holds never matters; nor do blanks around the deciding text or the
case of its basic letters, except for the wording of a failure. -/
theorem resolve_timestamp (env : Environment) :
    (r.disableTimestamp = true →
      (resolve d.path env t r).map timestamp = .ok (true, .commandLine)) ∧
    (r.disableTimestamp = false → env.Silent →
      (resolve d.path env t r).map timestamp = .ok (false, .standard)) ∧
    (r.disableTimestamp = false → ∀ name raw core, env.Decides name raw → IsStripped raw core →
      (resolve d.path env t r).map timestamp =
          (parseToggle name raw).map (fun value => (value, .environment)) ∧
        (parseToggle name raw = .ok true ↔
          lowercase core ∈ ["1", "true", "yes", "on"].map String.toList) ∧
        (parseToggle name raw = .ok false ↔
          lowercase core ∈ ["0", "false", "no", "off", ""].map String.toList)) ∧
    (∀ cause, resolve d.path env t r = .error cause ↔
      r.disableTimestamp = false ∧ ∃ name raw core, env.Decides name raw ∧ IsStripped raw core ∧
        lowercase core ∉
          ["1", "true", "yes", "on", "0", "false", "no", "off", ""].map String.toList ∧
        cause = .invalidToggle name raw) ∧
    (∀ env' name raw, env.Decides name raw → env'.Decides name raw →
      resolve d.path env' t r = resolve d.path env t r) ∧
    ∀ env' name name' raw raw', env.Decides name raw → env'.Decides name' raw' → Varies raw raw' →
      (resolve d.path env' t r).toOption = (resolve d.path env t r).toOption := by
  refine ⟨fun hFlag => ?_, fun hFlag hSilent => ?_, fun hFlag name raw core hDecides hCore => ?_,
    fun cause => ?_, fun env' name raw => resolve_of_decides d t r,
    fun env' name name' raw raw' => toOption_resolve_of_varies d t r⟩
  · rw [map_timestamp_resolve, hFlag]
    rfl
  · rw [map_timestamp_resolve, hFlag, hSilent.timestampSetting_eq]
  · rw [map_timestamp_resolve, hFlag, hDecides.timestampSetting_eq, isStripped_iff.mp hCore]
    exact ⟨rfl, parseToggle_eq_ok_true_iff, parseToggle_eq_ok_false_iff⟩
  · rw [resolve_eq_error_iff, timestampSetting_eq_error_iff]
    simp only [isStripped_iff, exists_and_left, exists_eq_left]
    rfl

/-- The program's own variable is set, in mixed case and between blanks, so that the text of the
general one does not matter; with the roles exchanged the settings fail, unless the command line
decides. -/
theorem resolve_timestamp_mixed :
    let d : WorkingDirectory := ⟨['/'], rfl, by decide⟩
    let r : Request := { source := [], target := [], name := [], version := [] }
    let own : Text := "OXIFY_DISABLE_BUILD_TIMESTAMP".toList
    let general : Text := "DISABLE_BUILD_TIMESTAMP".toList
    let env : Environment := [(general, "maybe".toList), (own, "\tYeS\u3000".toList)]
    let env' : Environment := [(own, "maybe".toList), (general, "yes".toList)]
    env.Decides own "\tYeS\u3000".toList ∧ IsStripped "\tYeS\u3000".toList "YeS".toList ∧
      (resolve d.path env (.level .info) r).map timestamp = .ok (true, .environment) ∧
      env'.Decides own "maybe".toList ∧
      resolve d.path env' (.level .info) r = .error (.invalidToggle own "maybe".toList) ∧
      (resolve d.path env' (.level .info) { r with disableTimestamp := true }).map timestamp =
        .ok (true, .commandLine) := by
  intro d r own general env env'
  have hDecides : env.Decides own "\tYeS\u3000".toList := .own (by decide +kernel)
  have hDecides' : env'.Decides own "maybe".toList := .own (by decide +kernel)
  have hCore : IsStripped "\tYeS\u3000".toList "YeS".toList :=
    isStripped_iff.mpr (by decide +kernel)
  have hOther : IsStripped "maybe".toList "maybe".toList := isStripped_iff.mpr (by decide +kernel)
  obtain ⟨-, -, hSetting, -⟩ := resolve_timestamp d (.level .info) r env
  obtain ⟨hShown, hOn, -⟩ := hSetting rfl _ _ _ hDecides hCore
  obtain ⟨-, -, -, hFails, -⟩ := resolve_timestamp d (.level .info) r env'
  obtain ⟨hMasked, -⟩ :=
    resolve_timestamp d (.level .info) { r with disableTimestamp := true } env'
  rw [hOn.mpr (by decide +kernel)] at hShown
  exact ⟨hDecides, hCore, hShown, hDecides',
    (hFails _).mpr ⟨rfl, own, _, _, hDecides', hOther, by decide +kernel, rfl⟩, hMasked rfl⟩

end Settings

end PluginMerge
