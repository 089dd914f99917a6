import ServiceContract.Code.Writer

/-!
# Writing step by step

A writer can also be driven by steps that open and close levels of indentation by hand.  Each level
that was opened by hand has a *guard*; guards are counted in the order they were taken, whatever
block they were taken in, and each closes one level, once.
-/

namespace ServiceContract

/-- A step on a writer. -/
inductive Step
  /-- Write a piece of code. -/
  | code (code : Code)
  /-- Write a block around the steps of its body. -/
  | block (header close : String) (body : List Step)
  /-- Open a level and take a guard for it. -/
  | indent
  /-- Give a guard back. -/
  | release (guard : Nat)
  deriving Repr

namespace Writer

/-- Open a level and take a guard for it. -/
def takeGuard (w : Writer) : Writer := { w.indent with guards := w.guards ++ [true] }

/-- Give a guard back, which closes a level; a guard that is not held changes nothing. -/
def giveBack (guard : Nat) (w : Writer) : Writer :=
  match w.guards[guard]? with
  | some true => { w.dedent with guards := w.guards.set guard false }
  | _ => w

end Writer

namespace Step

mutual

/-- Take a step. -/
def run : Step → Writer.Action
  | code c => c.write
  | block header close body => Writer.block header close (runAll body)
  | indent => fun w => (w.takeGuard, true)
  | release guard => fun w => (w.giveBack guard, true)

/-- Take steps until one fails. -/
def runAll : List Step → Writer.Action
  | [] => Writer.done
  | step :: rest => Writer.andThen (run step) (runAll rest)

end

/-- What one step did: whether it succeeded, and what it wrote. -/
structure Outcome where
  ok : Bool
  wrote : String
  deriving DecidableEq, Repr

/-- Take all steps, also after one that failed, and report on each. -/
def report (w : Writer) : List Step → List Outcome
  | [] => []
  | step :: rest =>
    match step.run { w with text := "" } with
    | (w', ok) => ⟨ok, w'.text⟩ :: report w' rest

end Step

end ServiceContract
