import PluginMerge.Log.Event

/-!
# Results with a log

The steps of the program report events and look things up. They are written once, for every monad
in which both is possible (`Journal`, `LookUps`), so that one text can run with a list of events,
with a logger that has a level, or with every look-up checked.

`Logged α` is a value of type `α` together with the events on the way to it, in order. The value
of a sequence of steps does not depend on the events of the earlier ones (`value_bind`), and the
events are strung together (`log_bind`). It is what a step means where nothing else is said.
-/

namespace PluginMerge

/-- Monads in which a step can report events. -/
class Journal (m : Type → Type) where
  /-- One event and nothing else. -/
  report : Event → m Unit

/-- Monads in which a step can look things up. -/
class LookUps (m : Type → Type) where
  /-- What a look-up has found. The second value stands in for a missing one where a step cannot
  fail. -/
  lookUp {α : Type} : Option α → α → m α

export Journal (report)
export LookUps (lookUp)

/-- Events one after the other. -/
def reportAll {m : Type → Type} [Monad m] [Journal m] : List Event → m Unit
  | [] => pure ()
  | e :: rest => do
    report e
    reportAll rest

/-- A value and the events that were reported on the way to it. -/
structure Logged (α : Type) where
  value : α
  log : List Event := []
  deriving DecidableEq, Repr

namespace Logged

instance : Monad Logged where
  pure a := ⟨a, []⟩
  bind x f := ⟨(f x.value).value, x.log ++ (f x.value).log⟩

@[default_instance]
instance : Journal Logged where
  report e := ⟨(), [e]⟩

@[default_instance]
instance : LookUps Logged where
  lookUp found instead := pure (found.getD instead)

variable {α β : Type}

@[simp] theorem value_pure (a : α) : (pure a : Logged α).value = a := rfl

@[simp] theorem log_pure (a : α) : (pure a : Logged α).log = [] := rfl

@[simp] theorem value_bind (x : Logged α) (f : α → Logged β) :
    (x >>= f).value = (f x.value).value := rfl

@[simp] theorem log_bind (x : Logged α) (f : α → Logged β) :
    (x >>= f).log = x.log ++ (f x.value).log := rfl

@[simp] theorem value_map (f : α → β) (x : Logged α) : (f <$> x).value = f x.value := rfl

@[simp] theorem log_map (f : α → β) (x : Logged α) : (f <$> x).log = x.log :=
  List.append_nil x.log

@[simp] theorem value_report (e : Event) : (report e : Logged Unit).value = () := rfl

@[simp] theorem log_report (e : Event) : (report e : Logged Unit).log = [e] := rfl

@[simp] theorem lookUp_eq (found : Option α) (instead : α) :
    (lookUp found instead : Logged α) = pure (found.getD instead) := rfl

@[ext] theorem ext {x y : Logged α} (hv : x.value = y.value) (hl : x.log = y.log) : x = y := by
  cases x
  cases y
  cases hv
  cases hl
  rfl

instance : LawfulMonad Logged :=
  LawfulMonad.mk' Logged
    (fun x => by ext <;> simp [Functor.map])
    (fun a f => by ext <;> simp)
    (fun x f g => by ext <;> simp)

end Logged

end PluginMerge
