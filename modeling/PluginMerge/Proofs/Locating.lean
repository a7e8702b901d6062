import Mathlib.Data.List.TakeWhile
import PluginMerge.Proofs.Output
import PluginMerge.Proofs.Trees
import PluginMerge.Settings

/-!
# The paths of a build

The source and the target of a request are texts; the settings hold the paths they denote for a
reader in some directory. A printed path is in normal form, so reading it gives the path back,
whatever directory the second reader is in.

* `Path.IsComponent`, `Path.Normal`: what components a path in normal form has.
* `Path.parse_render`: an absolute path in normal form survives printing.
* `Path.Spelled`: the leading slashes and the components of a text.
* `WorkingDirectory`: a directory that a reader can be in.
* `Settings.Located`: the printed path that belongs to an argument.
* `Settings.resolve_stable`: both paths of the settings, and what becomes of them when they are
  given to a reader elsewhere.
-/

namespace PluginMerge

namespace Path

variable {p base : Path} {s u : Text} {parts : List Text} {n : Nat}

/-! ## Components -/

/-- A component that a normal form keeps. -/
def IsComponent (part : Text) : Prop := part ≠ [] ∧ part ≠ selfPart ∧ '/' ∉ part

/-- All components are ones that a normal form keeps. -/
def Normal (p : Path) : Prop := ∀ part ∈ p.parts, IsComponent part

theorem isPart_iff {part : Text} : isPart part = true ↔ part ≠ [] ∧ part ≠ selfPart := by
  simp [isPart]

theorem not_mem_of_mem_splitOnP {part : Text} (h : part ∈ s.splitOnP (· == '/')) : '/' ∉ part := by
  induction s generalizing part with
  | nil =>
    rw [List.splitOnP_nil, List.mem_singleton] at h
    rw [h]
    exact List.not_mem_nil
  | cons c rest ih =>
    rw [List.splitOnP_cons_eq_if_modifyHead] at h
    obtain ⟨first, others, hPieces⟩ := List.exists_cons_of_ne_nil
      (List.splitOnP_ne_nil (· == '/') rest)
    rw [hPieces] at h ih
    split_ifs at h with hc
    · rcases List.mem_cons.mp h with rfl | hRest
      · exact List.not_mem_nil
      · exact ih hRest
    · have hne : '/' ≠ c := fun heq => hc (by rw [← heq]; rfl)
      rw [List.modifyHead_cons] at h
      rcases List.mem_cons.mp h with rfl | hRest
      · exact List.not_mem_cons_of_ne_of_not_mem hne (ih List.mem_cons_self)
      · exact ih (List.mem_cons_of_mem first hRest)

theorem normal_parse (s : Text) : (parse s).Normal := by
  intro part hPart
  obtain ⟨hPiece, hKept⟩ := List.mem_filter.mp hPart
  obtain ⟨hNil, hSelf⟩ := isPart_iff.mp hKept
  exact ⟨hNil, hSelf, not_mem_of_mem_splitOnP hPiece⟩

theorem Normal.under (hBase : base.Normal) (hp : p.Normal) : (under base p).Normal := by
  unfold Path.under
  split
  · exact hp
  · intro part hPart
    rcases List.mem_append.mp hPart with h | h
    · exact hBase part h
    · exact hp part h

theorem mem_foldl_step {here : Location} {part : Text} (h : part ∈ parts.foldl step here) :
    part ∈ here ∨ part ∈ parts := by
  induction parts generalizing here with
  | nil => exact Or.inl h
  | cons first rest ih =>
    rcases ih h with hHere | hRest
    · unfold step at hHere
      split at hHere
      · exact Or.inl (List.dropLast_subset here hHere)
      · rcases List.mem_append.mp hHere with hOld | hNew
        · exact Or.inl hOld
        · exact Or.inr (List.mem_cons.mpr (Or.inl (List.mem_singleton.mp hNew)))
    · exact Or.inr (List.mem_cons_of_mem first hRest)

/-- The components of the place that a path denotes are among those of the path. -/
theorem Normal.ofLocation_resolve (hp : p.Normal) : (ofLocation (p.resolve [])).Normal := by
  intro part hPart
  rw [ofLocation, resolve, ite_self] at hPart
  rcases mem_foldl_step hPart with h | h
  · exact absurd h List.not_mem_nil
  · exact hp part h

/-! ## Printing and reading back -/

theorem head?_joined (h : ∀ part ∈ parts, IsComponent part) :
    (Text.joined ['/'] parts).head? ≠ some '/' := by
  cases parts with
  | nil => simp [Text.joined]
  | cons part rest =>
    obtain ⟨hNil, -, hSlash⟩ := h part List.mem_cons_self
    obtain ⟨c, others, rfl⟩ := List.exists_cons_of_ne_nil hNil
    intro hHead
    have hc : c = '/' := by
      cases rest <;> simpa [Text.joined, List.intercalate_cons_cons] using hHead
    exact hSlash (hc ▸ List.mem_cons_self)

theorem getLast?_joined (hParts : parts ≠ []) (h : ∀ part ∈ parts, IsComponent part) :
    ∃ c, (Text.joined ['/'] parts).getLast? = some c ∧ c ≠ '/' := by
  induction parts with
  | nil => exact absurd rfl hParts
  | cons part rest ih =>
    cases rest with
    | nil =>
      obtain ⟨hNil, -, hSlash⟩ := h part List.mem_cons_self
      refine ⟨part.getLast hNil, ?_, fun heq => hSlash (heq ▸ List.getLast_mem hNil)⟩
      rw [Text.joined, List.intercalate_singleton, List.getLast?_eq_some_getLast hNil]
    | cons next others =>
      obtain ⟨c, hLast, hc⟩ := ih (List.cons_ne_nil _ _)
        fun x hx => h x (List.mem_cons_of_mem part hx)
      refine ⟨c, ?_, hc⟩
      rw [Text.joined, List.intercalate_cons_cons, List.getLast?_append]
      rw [Text.joined] at hLast
      rw [hLast]
      rfl

theorem filter_splitOnP_joined (h : ∀ part ∈ parts, IsComponent part) :
    ((Text.joined ['/'] parts).splitOnP (· == '/')).filter isPart = parts := by
  by_cases hParts : parts = []
  · rw [hParts]
    rfl
  · have hCut : (Text.joined ['/'] parts).splitOnP (· == '/') = parts :=
      List.splitOn_intercalate '/' (fun part hPart => (h part hPart).2.2) hParts
    rw [hCut, List.filter_eq_self]
    exact fun part hPart => isPart_iff.mpr ⟨(h part hPart).1, (h part hPart).2.1⟩

theorem takeWhile_slashes (hu : u.head? ≠ some '/') (n : Nat) :
    (List.replicate n '/' ++ u).takeWhile (· == '/') = List.replicate n '/' := by
  have hSlashes : ∀ c ∈ List.replicate n '/', (c == '/') = true := by
    intro c hc
    rw [List.eq_of_mem_replicate hc]
    rfl
  have hRest : u.takeWhile (· == '/') = [] := by
    cases u with
    | nil => rfl
    | cons c rest =>
      have hc : c ≠ '/' := fun heq => hu (by rw [heq]; rfl)
      exact List.takeWhile_cons_of_neg (by simpa using hc)
  rw [List.takeWhile_append_of_pos hSlashes, hRest, List.append_nil]

theorem filter_splitOnP_slashes (n : Nat) (u : Text) :
    ((List.replicate n '/' ++ u).splitOnP (· == '/')).filter isPart =
      (u.splitOnP (· == '/')).filter isPart := by
  induction n with
  | zero => rfl
  | succ n ih =>
    rw [List.replicate_succ, List.cons_append, List.splitOnP_cons_eq_if_modifyHead,
      if_pos (beq_self_eq_true '/'), List.filter_cons_of_neg (by decide), ih]

/-- The slashes in front decide about the root and about nothing else. -/
theorem parse_slashes (hu : u.head? ≠ some '/') (n : Nat) :
    parse (List.replicate n '/' ++ u) =
      ⟨rootOfSlashes n, (u.splitOnP (· == '/')).filter isPart⟩ := by
  rw [parse, takeWhile_slashes hu, List.length_replicate, filter_splitOnP_slashes]

/-- The slashes in front of a printed path that starts where `n` slashes lead. -/
def rootSlashes (n : Nat) : Text := if n = 2 then ['/', '/'] else ['/']

theorem render_rootOfSlashes (hn : n ≠ 0) (parts : List Text) :
    render ⟨rootOfSlashes n, parts⟩ = rootSlashes n ++ Text.joined ['/'] parts := by
  unfold rootOfSlashes rootSlashes
  split
  · exact absurd rfl hn
  · rfl
  · rename_i hTwo
    rw [if_neg hTwo]
    rfl

/-- An absolute path in normal form survives printing. -/
theorem parse_render (hp : p.Normal) (hAbsolute : p.isAbsolute = true) : parse p.render = p := by
  obtain ⟨root, parts⟩ := p
  have hHead := head?_joined hp
  have hParts := filter_splitOnP_joined hp
  cases root with
  | relative => cases hAbsolute
  | single =>
    have h := parse_slashes hHead 1
    rwa [hParts] at h
  | double =>
    have h := parse_slashes hHead 2
    rwa [hParts] at h

/-! ## What a text spells -/

/-- A text starts with exactly `n` slashes, and the pieces between its slashes are the given
components, apart from empty pieces and pieces `.`. -/
structure Spelled (s : Text) (n : Nat) (parts : List Text) : Prop where
  slashes : ∃ rest, s = List.replicate n '/' ++ rest ∧ rest.head? ≠ some '/'
  pieces : ∃ pieces, pieces ≠ [] ∧ (∀ piece ∈ pieces, '/' ∉ piece) ∧
    s = Text.joined ['/'] pieces ∧ parts = pieces.filter fun piece => piece ≠ [] ∧ piece ≠ selfPart

theorem spelled_parse (s : Text) :
    ∃ n, Spelled s n (parse s).parts ∧ (parse s).root = rootOfSlashes n := by
  have hLead : List.replicate (s.takeWhile (· == '/')).length '/' = s.takeWhile (· == '/') := by
    refine (List.eq_replicate_of_mem fun c hc => ?_).symm
    simpa using List.mem_takeWhile_imp hc
  have hRest : (s.dropWhile (· == '/')).head? ≠ some '/' := by
    intro hHead
    have hNot := List.head?_dropWhile_not (· == '/') s
    rw [hHead] at hNot
    cases hNot
  have hPieces : s = Text.joined ['/'] (s.splitOnP (· == '/')) :=
    (List.intercalate_splitOn '/').symm
  refine ⟨_, ⟨⟨s.dropWhile (· == '/'), ?_, hRest⟩, s.splitOnP (· == '/'),
    List.splitOnP_ne_nil _ s, fun piece => not_mem_of_mem_splitOnP, hPieces, ?_⟩, rfl⟩
  · rw [hLead, List.takeWhile_append_dropWhile]
  · refine List.filter_congr fun piece _ => ?_
    rw [Bool.eq_iff_iff, isPart_iff, decide_eq_true_iff]

end Path

/-! ## Working directories -/

/-- A text that names a directory a reader can be in: it starts at a root, and no name in it holds
the null character. -/
structure WorkingDirectory where
  text : Text
  absolute : text.head? = some '/'
  legible : '\x00' ∉ text

namespace WorkingDirectory

/-- The path of a directory. -/
def path (d : WorkingDirectory) : Path := .parse d.text

/-- The place of a directory: every `..` in its path is applied. -/
def place (d : WorkingDirectory) : Location := d.path.resolve []

theorem hasNull_path (d : WorkingDirectory) : d.path.hasNull = false := by
  rw [Path.hasNull, List.any_eq_false]
  intro part hPart hNull
  have hPiece := (List.mem_filter.mp hPart).1
  exact d.legible (mem_of_mem_splitOnP hPiece (List.contains_iff_mem.mp hNull))

theorem parentPart_not_mem_place (d : WorkingDirectory) : parentPart ∉ d.place :=
  Path.not_mem_resolve List.not_mem_nil d.path

end WorkingDirectory

namespace Settings

open PluginMerge.Path

variable {argument : Text}

/-! ## Arguments -/

theorem isAbsolute_locate (here : Location) (argument : Text) :
    (locate here argument).isAbsolute = true := by
  unfold locate under
  split
  · assumption
  · rfl

theorem normal_locate (d : WorkingDirectory) (argument : Text) :
    (locate d.place argument).Normal :=
  (normal_parse d.text).ofLocation_resolve.under (normal_parse argument)

/-- A printed path denotes the same path for every reader. -/
theorem locate_render (d : WorkingDirectory) (argument : Text) (here : Location) :
    locate here (locate d.place argument).render = locate d.place argument := by
  have hAbsolute := isAbsolute_locate d.place argument
  rw [locate, parse_render (normal_locate d argument) hAbsolute, under, if_pos hAbsolute]

/-- How the path of an argument that starts with `n` slashes and has the given components is
printed, for a reader in a directory. -/
structure Located (d : WorkingDirectory) (argument : Text) (n : Nat) (parts : List Text)
    (shown : Text) : Prop where
  spelled : Spelled argument n parts
  ofAbsolute : n ≠ 0 → shown = rootSlashes n ++ Text.joined ['/'] parts
  ofRelative : n = 0 → shown = '/' :: Text.joined ['/'] (d.place ++ parts)
  ofEmpty : argument = [] → shown = d.place.render
  normal : ∃ root names, (root = ['/'] ∨ root = ['/', '/']) ∧
    shown = root ++ Text.joined ['/'] names ∧ (∀ name ∈ names, IsComponent name) ∧
    names.count parentPart = parts.count parentPart
  noTrailingSlash : shown.getLast? = some '/' → shown = ['/'] ∨ shown = ['/', '/']

theorem locate_of_absolute {n : Nat} (hn : n ≠ 0) (hRoot : (parse argument).root = rootOfSlashes n)
    (here : Location) : locate here argument = ⟨rootOfSlashes n, (parse argument).parts⟩ := by
  have hAbsolute : (parse argument).isAbsolute = true := by
    rw [isAbsolute, hRoot]
    unfold rootOfSlashes
    split
    · exact absurd rfl hn
    · rfl
    · rfl
  rw [locate, under, if_pos hAbsolute, ← hRoot]

/-- A relative argument is continued from the working directory, with its parent parts as they are.
-/
theorem locate_of_relative (hRoot : (parse argument).root = .relative) (here : Location) :
    locate here argument = ⟨.single, here ++ (parse argument).parts⟩ := by
  have hRelative : (parse argument).isAbsolute = false := by
    rw [isAbsolute, hRoot]
    rfl
  rw [locate, under, hRelative]
  rfl

/-- Only a root is shown with a slash at its end. -/
theorem noTrailingSlash_of_normal {root shown : Text} {names : List Text}
    (hRoot : root = ['/'] ∨ root = ['/', '/']) (hShown : shown = root ++ Text.joined ['/'] names)
    (hNames : ∀ name ∈ names, IsComponent name) (hLast : shown.getLast? = some '/') :
    shown = ['/'] ∨ shown = ['/', '/'] := by
  by_cases hNil : names = []
  · have hEmpty : Text.joined ['/'] names = [] := by rw [hNil]; rfl
    rwa [hShown, hEmpty, List.append_nil]
  · obtain ⟨c, hc, hSlash⟩ := getLast?_joined hNil hNames
    rw [hShown, List.getLast?_append, hc] at hLast
    exact absurd (Option.some_inj.mp hLast) hSlash

theorem located_locate (d : WorkingDirectory) (argument : Text) :
    ∃ n parts, Located d argument n parts (locate d.place argument).render := by
  obtain ⟨n, hSpelled, hRoot⟩ := spelled_parse argument
  have hNormal := normal_locate d argument
  refine ⟨n, (parse argument).parts, ?_⟩
  by_cases hn : n = 0
  · subst hn
    rw [locate_of_relative hRoot] at hNormal ⊢
    have hParents : (d.place ++ (parse argument).parts).count parentPart =
        (parse argument).parts.count parentPart := by
      rw [List.count_append, List.count_eq_zero.mpr d.parentPart_not_mem_place, Nat.zero_add]
    refine ⟨hSpelled, fun h => absurd rfl h, fun _ => rfl, fun hEmpty => ?_,
      ⟨['/'], _, Or.inl rfl, rfl, hNormal, hParents⟩,
      noTrailingSlash_of_normal (Or.inl rfl) rfl hNormal⟩
    rw [hEmpty]
    exact congrArg (fun names => '/' :: Text.joined ['/'] names) (List.append_nil d.place)
  · rw [locate_of_absolute hn hRoot] at hNormal ⊢
    have hSlashes : rootSlashes n = ['/'] ∨ rootSlashes n = ['/', '/'] := by
      unfold rootSlashes
      split
      · exact Or.inr rfl
      · exact Or.inl rfl
    rw [render_rootOfSlashes hn]
    refine ⟨hSpelled, fun _ => rfl, fun h => absurd h hn, fun hEmpty => ?_,
      ⟨_, _, hSlashes, rfl, hNormal, rfl⟩, noTrailingSlash_of_normal hSlashes rfl hNormal⟩
    -- A text with a slash in front is not empty.
    obtain ⟨rest, hText, -⟩ := hSpelled.slashes
    rw [hEmpty] at hText
    have hNone := (List.append_eq_nil_iff.mp hText.symm).1
    exact absurd ((List.replicate_eq_nil_iff _).mp hNone) hn

/-! ## Both paths -/

/-- The settings hold the located source and target of the request. Only the toggle can make them
fail. -/
theorem resolve_workingDirectory (d : WorkingDirectory) (env : Environment) (t : Threshold)
    (r : Request) :
    resolve d.path env t r = (timestampSetting r.disableTimestamp env).map fun setting =>
      { source := locate d.place r.source
        target := locate d.place r.target
        name := r.name
        version := r.version
        disableTimestamp := setting.1
        timestampOrigin := setting.2
        verbosity := t.effective } := by
  rw [resolve, d.hasNull_path]
  rfl

/-- **Paths are stable.** In every working directory, and with a valid setting of the build time,
the settings exist. The source and the target are printed as absolute paths in normal form: those of
the arguments where these are absolute, and otherwise the working directory followed by the
components of the arguments. Given the printed paths, a reader in any other working directory gets
the same settings. -/
theorem resolve_stable (d d' : WorkingDirectory) (env : Environment) (t : Threshold) (r : Request)
    {setting : Bool × Origin} (h : timestampSetting r.disableTimestamp env = .ok setting) :
    ∃ s, resolve d.path env t r = .ok s ∧
      (∃ n parts, Located d r.source n parts s.source.render) ∧
      (∃ n parts, Located d r.target n parts s.target.render) ∧
      resolve d'.path env t { r with source := s.source.render, target := s.target.render } =
        .ok s := by
  have hSettings := resolve_workingDirectory d env t r
  rw [h] at hSettings
  refine ⟨_, hSettings, located_locate d r.source, located_locate d r.target, ?_⟩
  rw [resolve_workingDirectory, h, locate_render, locate_render]
  rfl

/-- In the directory the `..` is applied, in the source it stays. The target has three slashes in
front and ends with a dot. The second reader is below the root that has two slashes. -/
theorem resolve_stable_elsewhere :
    let d : WorkingDirectory := ⟨"/w/x/../y".toList, rfl, by decide⟩
    let d' : WorkingDirectory := ⟨"//z".toList, rfl, by decide⟩
    let r : Request :=
      { source := "a//./b/../c/".toList, target := "///out/.".toList, name := "P".toList
        version := "1".toList }
    timestampSetting r.disableTimestamp [] = .ok (false, .standard) ∧
      ∃ s, resolve d.path [] (.level .info) r = .ok s ∧
        s.source.render = "/w/y/a/b/../c".toList ∧ s.target.render = "/out".toList ∧
        resolve d'.path [] (.level .info)
          { r with source := "/w/y/a/b/../c".toList, target := "/out".toList } = .ok s := by
  intro d d' r
  have hSetting : timestampSetting r.disableTimestamp [] = .ok (false, .standard) := by decide
  obtain ⟨s, hs, -, -, hAgain⟩ := resolve_stable d d' [] (.level .info) r hSetting
  have hShown : (resolve d.path [] (.level .info) r).map
      (fun s => (s.source.render, s.target.render)) =
        .ok ("/w/y/a/b/../c".toList, "/out".toList) := by decide +kernel
  rw [hs] at hShown
  obtain ⟨hSource, hTarget⟩ := Prod.mk.inj (Except.ok.inj hShown)
  rw [hSource, hTarget] at hAgain
  exact ⟨hSetting, s, hs, hSource, hTarget, hAgain⟩

end Settings

end PluginMerge
