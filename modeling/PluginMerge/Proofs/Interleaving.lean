import Mathlib.Data.List.Basic
import PluginMerge.Command

/-!
# Options may stand anywhere

A command line is read twice. The first reading carries out the options in their order and leaves
the words, the second takes all the words that are left. Between the two nothing remains of where
the words stood, so a call does the same wherever its options stand between the words: it ends with
the same report, also when the options are wrong.

* `OptionUnit`: an option with the value that belongs to it.
* `Interleaves words units arguments`: the arguments are the words and the units, each in order.
* `Reading.leaves_run`: the first reading of such arguments.
* `parseArguments_interleaved`: what is read depends on the words and the units alone.
* `Command.run_interleaved`: two calls.
-/

namespace PluginMerge

/-- An option together with the value that belongs to it. -/
inductive OptionUnit where
  /-- An option without a value, spelt in full. -/
  | plain (flag : Flag) (spelling : Text) (hSpelling : spelling ∈ flag.spellings)
      (hPlain : flag.takesValue = false)
  /-- The option that sets the verbosity, and behind it the name of a level or any other word. -/
  | level (value : Text) (hValue : value.head? ≠ some '-')

namespace OptionUnit

/-- A unit as it stands on a command line. -/
def arguments : OptionUnit → List Text
  | plain _ spelling _ _ => [spelling]
  | level value _ => ["--log-level".toList, value]

def tokens : OptionUnit → List Token
  | plain flag spelling _ _ => [.option flag spelling none]
  | level value _ => [.option .logLevel "--log-level".toList none, .word value]

def flag : OptionUnit → Flag
  | plain flag _ _ _ => flag
  | level _ _ => .logLevel

def value? : OptionUnit → Option Text
  | plain _ _ _ _ => none
  | level value _ => some value

def carryOut (r : Reading) (u : OptionUnit) : Except Stop Reading := r.carryOut u.flag u.value?

end OptionUnit

/-- The arguments are the words and the units, all words in order and all units in order. -/
inductive Interleaves : List Text → List OptionUnit → List Text → Prop where
  | nil : Interleaves [] [] []
  | word (w : Text) {words : List Text} {units : List OptionUnit} {arguments : List Text}
      (h : Interleaves words units arguments) : Interleaves (w :: words) units (w :: arguments)
  | unit (u : OptionUnit) {words : List Text} {units : List OptionUnit} {arguments : List Text}
      (h : Interleaves words units arguments) :
      Interleaves words (u :: units) (u.arguments ++ arguments)

variable {words : List Text} {units : List OptionUnit} {arguments arguments' : List Text}

/-! ## Classes of the arguments -/

namespace Token

theorem ofArguments_cons {s : Text} {token : Token} (hMark : s ≠ separatorMark)
    (hClass : classify s = .ok token) (rest : List Text) :
    ofArguments (s :: rest) = (ofArguments rest).map (token :: ·) := by
  rw [ofArguments, if_neg hMark, hClass]

theorem ofArguments_word {w : Text} (hw : w.head? ≠ some '-') (rest : List Text) :
    ofArguments (w :: rest) = (ofArguments rest).map (.word w :: ·) := by
  refine ofArguments_cons ?_ ?_ rest
  · rintro rfl
    exact hw rfl
  · rw [classify, if_pos (Or.inl hw)]

/-- Every spelling of an option is taken for this option and for nothing else. -/
theorem classify_spelling (flag : Flag) :
    ∀ s ∈ flag.spellings, s ≠ separatorMark ∧ classify s = .ok (.option flag s none) := by
  cases flag <;> decide +kernel

/-- An option and its value become the same tokens wherever they stand among the words. -/
theorem ofArguments_unit (u : OptionUnit) (rest : List Text) :
    ofArguments (u.arguments ++ rest) = (ofArguments rest).map (u.tokens ++ ·) := by
  cases u with
  | plain flag spelling hSpelling hPlain =>
    obtain ⟨hMark, hClass⟩ := classify_spelling flag spelling hSpelling
    exact ofArguments_cons hMark hClass rest
  | level value hValue =>
    obtain ⟨hMark, hClass⟩ := classify_spelling .logLevel "--log-level".toList (by decide)
    have hOption := ofArguments_cons hMark hClass (value :: rest)
    rw [ofArguments_word hValue] at hOption
    cases hRest : ofArguments rest <;> rw [hRest] at hOption <;> exact hOption

end Token

/-! ## The first reading -/

namespace Reading

/-- A reading without what it has found of the words. -/
def bare (r : Reading) : Reading :=
  { choices := r.choices, seen := r.seen, awaiting := r.awaiting }

/-- One reading ends as the other, a bare one: both stop for the same reason, or both come to the
same choices, and the first leaves the given texts. -/
def Leaves (rest : List Text) (x alone : Except Stop Reading) : Prop :=
  (∃ stop, x = .error stop ∧ alone = .error stop) ∨
    ∃ r, x = .ok r ∧ alone = .ok r.bare ∧ r.rest = rest ∧ r.awaiting = none

theorem carryOut_awaiting (r : Reading) (waiting : Option Flag) (flag : Flag)
    (value : Option Text) :
    ({ r with awaiting := waiting }).carryOut flag value = r.carryOut flag value := rfl

/-- What an option does depends on the options before it, never on the words. -/
theorem leaves_carryOut (r : Reading) (flag : Flag) (value : Option Text) :
    Leaves r.rest (r.carryOut flag value) (r.bare.carryOut flag value) := by
  unfold carryOut
  split
  · exact Or.inl ⟨_, rfl, rfl⟩
  · dsimp only [bare]
    split
    · exact Or.inl ⟨_, rfl, rfl⟩
    · exact Or.inl ⟨_, rfl, rfl⟩
    · exact Or.inr ⟨_, rfl, rfl, rfl, rfl⟩

theorem step_word {r : Reading} (hr : r.awaiting = none) (round : Round) (s : Text) :
    step round r (.word s) = .ok (r.word round s) := by
  simp only [step, hr]

theorem step_option {r : Reading} (hr : r.awaiting = none) (round : Round) (flag : Flag)
    (spelling : Text) (attached : Option Text) :
    step round r (.option flag spelling attached) = r.interrupt.option flag spelling attached := by
  simp only [step, hr]

/-- The tokens of an option, read in the round for options, carry it out. Only that a stretch of
words ends here depends on where it stands. -/
theorem foldlM_tokens {r : Reading} (hr : r.awaiting = none) (u : OptionUnit) :
    u.tokens.foldlM (step .options) r = u.carryOut r.interrupt := by
  cases u with
  | plain flag spelling hSpelling hPlain =>
    have hOption : r.interrupt.option flag spelling none = r.interrupt.carryOut flag none := by
      rw [option, if_neg (Bool.eq_false_iff.mp hPlain)]
    rw [OptionUnit.tokens, List.foldlM_cons, step_option hr, hOption]
    exact bind_pure _
  | level value hValue =>
    rw [OptionUnit.tokens, List.foldlM_cons, step_option hr]
    -- The option only waits; its value, the next word, carries it out.
    exact (bind_pure _).trans
      (carryOut_awaiting r.interrupt (some .logLevel) .logLevel (some value))

/-- The first reading carries out the units in their order and leaves the words in theirs. -/
theorem leaves_interleaved (h : Interleaves words units arguments)
    (hWords : ∀ w ∈ words, w.head? ≠ some '-') :
    ∃ tokens, Token.ofArguments arguments = .ok tokens ∧
      ∀ r : Reading, r.awaiting = none →
        Leaves (r.rest ++ words) (tokens.foldlM (step .options) r)
          (units.foldlM OptionUnit.carryOut r.bare) := by
  induction h with
  | nil =>
    refine ⟨[], rfl, fun r hr => Or.inr ⟨r, rfl, rfl, ?_, hr⟩⟩
    rw [List.append_nil]
  | word w h ih =>
    obtain ⟨hw, hWords⟩ := List.forall_mem_cons.mp hWords
    obtain ⟨tokens, hTokens, hFold⟩ := ih hWords
    refine ⟨.word w :: tokens, by rw [Token.ofArguments_word hw, hTokens]; rfl, fun r hr => ?_⟩
    have hWord : r.word .options w = { r with search := .over, rest := r.rest ++ [w] } := by
      cases r.search <;> rfl
    have hLater := hFold { r with search := .over, rest := r.rest ++ [w] } hr
    rw [List.append_assoc] at hLater
    rw [List.foldlM_cons, step_word hr, hWord]
    exact hLater
  | unit u h ih =>
    obtain ⟨tokens, hTokens, hFold⟩ := ih hWords
    refine ⟨u.tokens ++ tokens, by rw [Token.ofArguments_unit, hTokens]; rfl, fun r hr => ?_⟩
    have hUnit : Leaves r.rest (u.carryOut r.interrupt) (u.carryOut r.bare) :=
      r.interrupt.leaves_carryOut u.flag u.value?
    rw [List.foldlM_append, foldlM_tokens hr, List.foldlM_cons]
    obtain ⟨stop, hCarry, hBare⟩ | ⟨r', hCarry, hBare, hRest, hAwaiting⟩ := hUnit
    · rw [hCarry, hBare]
      exact Or.inl ⟨stop, rfl, rfl⟩
    · rw [hCarry, hBare, ← hRest]
      exact hFold r' hAwaiting

/-- In the round for options, words between the options are left over in order, and the options are
carried out as if there were no words. -/
theorem leaves_run (h : Interleaves words units arguments)
    (hWords : ∀ w ∈ words, w.head? ≠ some '-') :
    Leaves words (run .options {} arguments) (units.foldlM OptionUnit.carryOut {}) := by
  obtain ⟨tokens, hTokens, hFold⟩ := leaves_interleaved h hWords
  simp only [run, hTokens]
  obtain ⟨stop, hStop, hUnits⟩ | ⟨r, hEnd, hUnits, hRest, hAwaiting⟩ := hFold {} rfl
  · rw [hStop]
    exact Or.inl ⟨stop, rfl, hUnits⟩
  · simp only [hEnd, hAwaiting]
    exact Or.inr ⟨r, rfl, hUnits, hRest, hAwaiting⟩

/-! ## The second reading -/

theorem ofArguments_words (hWords : ∀ w ∈ words, w.head? ≠ some '-') :
    Token.ofArguments words = .ok (words.map .word) := by
  induction words with
  | nil => rfl
  | cons w words ih =>
    obtain ⟨hw, hWords⟩ := List.forall_mem_cons.mp hWords
    rw [Token.ofArguments_word hw, ih hWords]
    rfl

/-- The second reading takes every word of an unbroken stretch. -/
theorem foldlM_words {r : Reading} (hr : r.awaiting = none) (hSearch : r.search ≠ .over)
    (words : List Text) :
    ∃ search, (words.map Token.word).foldlM (step .words) r =
      .ok { r with search, words := r.words ++ words } := by
  induction words generalizing r with
  | nil =>
    refine ⟨r.search, ?_⟩
    rw [List.append_nil]
    rfl
  | cons w words ih =>
    have hWord : r.word .words w = { r with search := .taking, words := r.words ++ [w] } := by
      cases hNow : r.search with
      | waiting => simp only [word, hNow]
      | taking => simp only [word, hNow]
      | _ => exact absurd hNow hSearch
    obtain ⟨search, hFold⟩ :=
      ih (r := { r with search := .taking, words := r.words ++ [w] }) hr Search.noConfusion
    refine ⟨search, ?_⟩
    rw [List.map_cons, List.foldlM_cons, step_word hr, hWord]
    refine hFold.trans ?_
    rw [List.append_assoc]
    rfl

theorem run_words (hWords : ∀ w ∈ words, w.head? ≠ some '-') (c : Choices) :
    ∃ search, run .words { choices := c } words = .ok { choices := c, search, words } := by
  obtain ⟨search, hFold⟩ :=
    foldlM_words (r := { choices := c }) rfl Search.noConfusion words
  refine ⟨search, ?_⟩
  rw [run, ofArguments_words hWords]
  dsimp only
  rw [hFold]
  rfl

end Reading

/-! ## Calls -/

/-- What is read of a command line: all words, and what the units choose one after the other. -/
theorem parseArguments_interleaved (h : Interleaves words units arguments)
    (hWords : ∀ w ∈ words, w.head? ≠ some '-') :
    parseArguments arguments =
      (units.foldlM OptionUnit.carryOut {}).map fun r => (r.choices, words) := by
  unfold parseArguments
  obtain ⟨stop, hFirst, hUnits⟩ | ⟨first, hFirst, hUnits, hRest, -⟩ := Reading.leaves_run h hWords
  · rw [hFirst, hUnits]
    rfl
  · obtain ⟨search, hSecond⟩ := Reading.run_words hWords first.choices
    rw [hFirst, hUnits]
    dsimp only
    rw [hRest, hSecond]
    rfl

/-- **Options may stand anywhere.** A call reads all its words and carries out its options one after
the other, and two calls that differ only in where the options stand between the words leave the
same report behind. -/
theorem Command.run_interleaved (host : Host) (console : Console) (disk : Disk)
    (hWords : ∀ w ∈ words, w.head? ≠ some '-') (h : Interleaves words units arguments)
    (h' : Interleaves words units arguments') :
    parseArguments arguments =
        (units.foldlM OptionUnit.carryOut {}).map (fun r => (r.choices, words)) ∧
      run host console disk arguments = run host console disk arguments' := by
  refine ⟨parseArguments_interleaved h hWords, ?_⟩
  unfold run runWith
  rw [parseArguments_interleaved h hWords, parseArguments_interleaved h' hWords]

/-- Four words, with two options between them and in front of them. -/
theorem Command.run_interleaved_between :
    let words := ["src".toList, "Out.cs".toList, "P".toList, "1".toList]
    let level : OptionUnit := .level "error".toList (by decide)
    let plain : OptionUnit := .plain .noColor "--no-color".toList (by decide) rfl
    let between := ["src".toList, "--log-level".toList, "error".toList, "Out.cs".toList,
      "P".toList, "--no-color".toList, "1".toList]
    let host : Host := { here := some [], now := ⟨2001, 2, 3, 4, 5, 6⟩, tool := ⟨[], []⟩ }
    (∀ w ∈ words, w.head? ≠ some '-') ∧
      Interleaves words [level, plain] between ∧
      Interleaves words [level, plain] (level.arguments ++ plain.arguments ++ words) ∧
      run host {} {} between =
        run host {} {} (level.arguments ++ plain.arguments ++ words) := by
  intro words level plain between host
  have hWords : ∀ w ∈ words, w.head? ≠ some '-' := by decide
  have hBetween : Interleaves words [level, plain] between :=
    .word _ (.unit level (.word _ (.word _ (.unit plain (.word _ .nil)))))
  have hFront : Interleaves words [level, plain] (level.arguments ++ plain.arguments ++ words) :=
    .unit level (.unit plain (.word _ (.word _ (.word _ (.word _ .nil)))))
  exact ⟨hWords, hBetween, hFront, (run_interleaved host {} {} hWords hBetween hFront).2⟩

end PluginMerge
