import PluginMerge.Text.Uppercase

/-!
# Levels of the log

Every record has a level. A logger has a threshold, which is a level or nothing of its own; in the
second case the level `detail` applies. A record passes if its level is at least the threshold.
-/

namespace PluginMerge

/-- The weight of a record, from the least to the greatest. The last one is above every record. -/
inductive Level where
  | test
  | trace
  | debug
  | detail
  | info
  | brief
  | warning
  | error
  | critical
  | silent
  deriving DecidableEq, Repr

namespace Level

/-- All levels in increasing order. -/
def all : List Level :=
  [.test, .trace, .debug, .detail, .info, .brief, .warning, .error, .critical, .silent]

/-- The place of a level on the common numeric scale. -/
def rank : Level → Nat
  | test => 2
  | trace => 5
  | debug => 10
  | detail => 15
  | info => 20
  | brief => 25
  | warning => 30
  | error => 40
  | critical => 50
  | silent => 51

/-- The name of a level, in small letters. -/
def name : Level → Text
  | test => "test".toList
  | trace => "trace".toList
  | debug => "debug".toList
  | detail => "detail".toList
  | info => "info".toList
  | brief => "brief".toList
  | warning => "warning".toList
  | error => "error".toList
  | critical => "critical".toList
  | silent => "silent".toList

/-- The name of a level, in capitals. -/
def title (l : Level) : Text := l.name.map Char.toUpper

end Level

/-- The verbosity of a logger. -/
inductive Threshold where
  /-- Nothing of its own. -/
  | unset
  /-- Records of this level and above. -/
  | level (l : Level)
  deriving DecidableEq, Repr

namespace Threshold

/-- The level from which records pass. -/
def effective : Threshold → Level
  | unset => .detail
  | level l => l

/-- The name of a threshold, in capitals. -/
def title : Threshold → Text
  | unset => "NOTSET".toList
  | level l => l.title

/-- The names in capitals that a threshold answers to, with two short forms. -/
def titles : List (Text × Threshold) :=
  Level.all.map (fun l => (l.title, level l)) ++
    [("WARN".toList, level .warning), ("FATAL".toList, level .critical),
      ("NOTSET".toList, unset)]

/-- The threshold of a name in capitals. -/
def ofTitle? (title : Text) : Option Threshold := titles.lookup title

/-- Whether records of a level pass. -/
def passes (t : Threshold) (l : Level) : Bool := decide (t.effective.rank ≤ l.rank)

end Threshold

end PluginMerge
