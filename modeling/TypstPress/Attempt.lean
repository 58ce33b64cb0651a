import TypstPress.Failure

/-!
# Attempts

An attempt either gives a value or fails, and in both cases has written log records. Attempts are
run one after the other: the first failure ends the run, and the records of all that ran are kept
in order.
-/

namespace TypstPress

/-- The outcome of a computation that may fail, with the records it wrote. -/
structure Attempt (α : Type) where
  result : Except Failure α
  log : Log := []

namespace Attempt

/-- Success without records. -/
def succeed (a : α) : Attempt α := { result := .ok a }

/-- Failure without records. -/
def fail (f : Failure) : Attempt α := { result := .error f }

/-- Writes one record. -/
def note (severity : Severity) (speaker message : String) : Attempt Unit :=
  { result := .ok (), log := [⟨severity, speaker, message⟩] }

/-- Writes several records. -/
def notes (log : Log) : Attempt Unit := { result := .ok (), log := log }

/-- Runs `f` on the value of the first attempt, if it has one. -/
def andThen (x : Attempt α) (f : α → Attempt β) : Attempt β :=
  match x.result with
  | .ok a =>
    let y := f a
    { result := y.result, log := x.log ++ y.log }
  | .error e => { result := .error e, log := x.log }

instance : Monad Attempt where
  pure := succeed
  bind := andThen

/-- The attempt with its failure replaced. -/
def mapFailure (f : Failure → Failure) (x : Attempt α) : Attempt α :=
  match x.result with
  | .ok a => { result := .ok a, log := x.log }
  | .error e => { result := .error (f e), log := x.log }

/-- A result without records. -/
def ofExcept (r : Except Failure α) : Attempt α := { result := r }

end Attempt

end TypstPress
