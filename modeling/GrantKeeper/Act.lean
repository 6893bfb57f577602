import GrantKeeper.Error

/-! Activities: computations in some base monad that end with a value, with an error to report,
or in a fault, which nobody handles and which ends the activity where it is. Effects that an
activity had before it failed stay. -/
namespace GrantKeeper

/-- An arithmetic operation on times left its range. -/
inductive Fault
  | spanOutOfRange
  | instantAboveRange
  | instantBelowRange
  | deadlineOutOfRange
  | intervalOutOfRange
  /-- A code without a lifetime was polled for as often as was allowed. -/
  | pollsExhausted
deriving DecidableEq, Repr

def Fault.message : Fault → String
  | spanOutOfRange => "TimeDelta::seconds out of bounds"
  | instantAboveRange => "\x60DateTime + TimeDelta\x60 overflowed"
  | instantBelowRange => "\x60DateTime - TimeDelta\x60 overflowed"
  | deadlineOutOfRange => "overflow when adding duration to instant"
  | intervalOutOfRange => "overflow when adding durations"
  | pollsExhausted => "no decisive answer within the polls allowed"

inductive Failure
  | error (cause : Error)
  | fault (fault : Fault)
deriving DecidableEq, Repr

abbrev Act (m : Type → Type) := ExceptT Failure m

namespace Act

variable {m : Type → Type} [Monad m]

def fail (error : Error) : Act m α := throw (.error error)

def crash (fault : Fault) : Act m α := throw (.fault fault)

def step (effect : m α) : Act m α := ExceptT.lift effect

def ofExcept : Except Error α → Act m α
  | .ok value => pure value
  | .error error => fail error

/-- Restates the error of an activity; a fault stays as it is. -/
def mapError (restate : Error → Error) (act : Act m α) : Act m α :=
  ExceptT.adapt (fun
    | .error error => .error (restate error)
    | .fault fault => .fault fault) act

def during (activity : String) (act : Act m α) : Act m α := act.mapError (.during activity)

def hoist {n : Type → Type} (move : ∀ {α}, m α → n α) (act : Act m α) : Act n α :=
  ExceptT.mk (move act.run)

/-- How an activity ends, as a step of the base monad; a fault goes on. -/
def attempt (act : Act m α) : Act m (Except Error α) :=
  ExceptT.mk do
    match ← act.run with
    | .ok value => return .ok (.ok value)
    | .error (.error error) => return .ok (.error error)
    | .error (.fault fault) => return .error (.fault fault)

end Act
end GrantKeeper
