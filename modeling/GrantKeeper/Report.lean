import GrantKeeper.Act
import GrantKeeper.Config

/-! Reports: what a user is told when a command fails, with what lies behind it. -/
namespace GrantKeeper

structure Report where
  text : String
  /-- What lies behind it, the nearest first. -/
  causes : List String := []
deriving DecidableEq, Repr

namespace Report

def during (activity : String) (report : Report) : Report := ⟨activity, report.text :: report.causes⟩

def ofConfig (error : ConfigError) : Report := ⟨error.message, error.causes⟩

def ofError (error : Error) : Report := ⟨error.message, []⟩

/-- A text of several lines behind a mark, with the other lines in the column of the first. -/
def hanging (mark text : String) : String :=
  mark ++ ("\n" ++ String.ofList (List.replicate mark.length ' ')).intercalate (text.splitOn "\n")

def column (n : Nat) : String :=
  let digits := toString n
  String.ofList (List.replicate (5 - digits.length) ' ') ++ digits

/-- The causes, which are numbered if there are several. -/
def causesText : List String → String
  | [] => ""
  | [cause] => "\n\nCaused by:\n" ++ hanging "    " cause
  | causes =>
    "\n\nCaused by:" ++
      String.join (causes.zipIdx.map fun (cause, n) => "\n" ++ hanging (column n ++ ": ") cause)

def toText (report : Report) : String := "Error: " ++ report.text ++ causesText report.causes ++ "\n"

end Report

/-- How a command can end without success. -/
inductive Ending
  | report (report : Report)
  | fault (fault : Fault)
deriving DecidableEq, Repr

abbrev Job (m : Type → Type) := ExceptT Ending m

namespace Job

variable {m : Type → Type} [Monad m]

def fail (report : Report) : Job m α := throw (.report report)

def step (effect : m α) : Job m α := ExceptT.lift effect

def ofConfig : Except ConfigError α → Job m α
  | .ok value => pure value
  | .error error => fail (.ofConfig error)

def ending : Failure → Ending
  | .error error => .report (.ofError error)
  | .fault fault => .fault fault

def ofAct (act : Act m α) : Job m α := ExceptT.adapt ending act

def during (activity : String) (job : Job m α) : Job m α :=
  ExceptT.adapt (fun
    | .report report => .report (report.during activity)
    | .fault fault => .fault fault) job

end Job
end GrantKeeper
