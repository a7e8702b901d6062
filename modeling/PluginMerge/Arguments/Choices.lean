import PluginMerge.Arguments.Token

/-!
# Reading a command line

Options may stand anywhere between the words. A command line is read twice. The first reading
carries out the options and leaves the rest: the words, the separator and the unknown options. The
second reading takes words from that rest: the first unbroken stretch of them, up to the next
option. What is then left over has no meaning.

A reading looks for words only once. The first reading never takes any, but if it finds the
separator at the place where it looks, the separator is used up there.
-/

namespace PluginMerge

/-- The verbosity that a command line asks for. -/
inductive LevelChoice where
  /-- It asks for none. -/
  | unset
  /-- It names one. -/
  | named (name : Text)
  /-- It asks for one without naming it. -/
  | notNamed
  deriving DecidableEq, Repr

/-- What the options of a command line ask for. -/
structure Choices where
  disableTimestamp : Bool := false
  color : Option Bool := none
  showVersion : Bool := false
  level : LevelChoice := .unset
  deriving DecidableEq, Repr

/-- Why a command line is not carried out. -/
inductive Stop where
  /-- It asks for help. -/
  | help
  /-- It is wrong. -/
  | misuse (m : Misuse)
  deriving DecidableEq, Repr

/-- Whether a reading is still looking for its words. -/
inductive Search where
  /-- No word has been met. -/
  | waiting
  /-- The stretch of words goes on. -/
  | taking
  /-- The search is over. -/
  | over
  deriving DecidableEq, Repr

/-- Which of the two readings is going on. -/
inductive Round where
  | options
  | words
  deriving DecidableEq, Repr

/-- The state of a reading. -/
structure Reading where
  choices : Choices := {}
  /-- The options met so far. -/
  seen : List Flag := []
  /-- An option that waits for its value. -/
  awaiting : Option Flag := none
  search : Search := .waiting
  words : List Text := []
  rest : List Text := []
  deriving DecidableEq, Repr

namespace Reading

/-! ## Options -/

/-- The choices after an option, with its value if it has one. -/
def choose (c : Choices) (value : Option Text) : Flag → Choices
  | .help => c
  | .disableTimestamp => { c with disableTimestamp := true }
  | .noColor => { c with color := some false }
  | .color => { c with color := some true }
  | .version => { c with showVersion := true }
  | .quiet => { c with level := .named Level.warning.name }
  | .verbose => { c with level := .named Level.debug.name }
  | .logLevel => { c with level := (value.map .named).getD .notNamed }

/-- Whether a text is a value of the option that sets the verbosity. -/
def isLevelName (s : Text) : Bool := (Level.all.map Level.name).contains s

/-- Carry out an option. A value has to be one of those allowed, and no rival of the option may have
been met. -/
def carryOut (r : Reading) (flag : Flag) (value : Option Text) : Except Stop Reading :=
  if flag = .help then .error .help
  else
    match value.filter (!isLevelName ·), flag.rivals.find? r.seen.contains with
    | some bad, _ => .error (.misuse (.invalidChoice flag bad))
    | none, some rival => .error (.misuse (.conflict flag rival))
    | none, none =>
      .ok { r with
        choices := choose r.choices value flag
        seen := flag :: r.seen
        awaiting := none }

/-- The options that letters attached to a short one stand for. A letter that is no option makes all
that is left from it on an attached value, and no short option takes one. This is the rule of option
readers up to release 3.11.8; later ones refuse the same words with another message. -/
def cluster (flag : Flag) : Text → Except Misuse (List Flag)
  | [] => .error (.ignoredValue flag [])
  | c :: rest =>
    match Flag.ofSpelling? ['-', c] with
    | none => .error (.ignoredValue flag (c :: rest))
    | some next => if rest.isEmpty then .ok [flag, next] else (cluster next rest).map (flag :: ·)

/-- Carry out several options without values. -/
def carryOutAll (r : Reading) (flags : List Flag) : Except Stop Reading :=
  flags.foldlM (fun r flag => r.carryOut flag none) r

/-- An option with something attached to it. A separator that is attached as a value names nothing,
which is again the rule up to release 3.11.8; later releases take it as the value. -/
def attachedOption (r : Reading) (flag : Flag) (spelling value : Text) : Except Stop Reading :=
  if flag.takesValue then
    r.carryOut flag (if value = separatorMark then none else some value)
  else if separatorMark.isPrefixOf spelling then .error (.misuse (.ignoredValue flag value))
  else
    match cluster flag value with
    | .error misuse => .error (.misuse misuse)
    | .ok flags => r.carryOutAll flags

/-- An option. -/
def option (r : Reading) (flag : Flag) (spelling : Text) (attached : Option Text) :
    Except Stop Reading :=
  match attached with
  | some value => r.attachedOption flag spelling value
  | none =>
    if flag.takesValue then .ok { r with awaiting := some flag } else r.carryOut flag none

/-! ## Words -/

/-- The reading at an option: a stretch of words ends here. -/
def interrupt (r : Reading) : Reading :=
  { r with search := if r.search = .taking then .over else r.search }

/-- A word. -/
def word (r : Reading) (round : Round) (s : Text) : Reading :=
  match round, r.search with
  | .words, .waiting => { r with search := .taking, words := r.words ++ [s] }
  | .words, .taking => { r with words := r.words ++ [s] }
  | _, _ => { r with search := .over, rest := r.rest ++ [s] }

/-- The separator. -/
def separator (r : Reading) (round : Round) : Reading :=
  match round, r.search with
  | .options, .waiting => { r with search := .over }
  | .words, .waiting => { r with search := .taking }
  | .words, .taking => r
  | _, _ => { r with search := .over, rest := r.rest ++ [separatorMark] }

/-! ## Readings -/

/-- One argument. -/
def step (round : Round) (r : Reading) (token : Token) : Except Stop Reading :=
  match r.awaiting, token with
  | some flag, .word value => r.carryOut flag (some value)
  | some flag, _ => .error (.misuse (.missingValue flag))
  | none, .word s => .ok (r.word round s)
  | none, .separator => .ok (r.separator round)
  | none, .stranger s => .ok { r.interrupt with rest := r.rest ++ [s] }
  | none, .option flag spelling attached => r.interrupt.option flag spelling attached

/-- All arguments of a reading. -/
def run (round : Round) (r : Reading) (arguments : List Text) : Except Stop Reading :=
  match Token.ofArguments arguments with
  | .error misuse => .error (.misuse misuse)
  | .ok tokens =>
    match tokens.foldlM (step round) r with
    | .error stop => .error stop
    | .ok r =>
      match r.awaiting with
      | some flag => .error (.misuse (.missingValue flag))
      | none => .ok r

end Reading

/-- The choices and words of a command line. -/
def parseArguments (arguments : List Text) : Except Stop (Choices × List Text) :=
  match Reading.run .options {} arguments with
  | .error stop => .error stop
  | .ok first =>
    match Reading.run .words { choices := first.choices } first.rest with
    | .error stop => .error stop
    | .ok second =>
      if second.rest.isEmpty then .ok (second.choices, second.words)
      else .error (.misuse (.unrecognized second.rest))

end PluginMerge
