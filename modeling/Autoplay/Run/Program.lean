import Autoplay.Run.Group

/-!
# Running a workflow

The steps of a workflow one after the other, jumps followed. Members of repeated groups are passed
over, since they run in the repetition. A step that makes no sense is passed over too; any other
failure of a step ends the run.
-/

namespace Autoplay

/-- How a run ended. -/
inductive RunStatus where
  /-- All steps are done. -/
  | succeeded
  /-- A step failed. -/
  | failed
  /-- The run was told to stop. -/
  | aborted
deriving DecidableEq, Repr

/-- The word for a status. -/
def RunStatus.name : RunStatus → String
  | .succeeded => "Succeeded"
  | .failed => "Failed"
  | .aborted => "Aborted"

/-- How a run ended, in what words, and how many steps were begun. -/
structure Report where
  /-- How the run ended. -/
  status : RunStatus
  /-- What is to be said about it. -/
  message : String
  /-- The number of steps that were begun, members of repeated groups apart. -/
  executed : Nat
deriving DecidableEq, Repr

namespace Context

/-- Plays the step at a position; where the run goes on then, or how it ends. -/
def dispatch (ctx : Context) (index : Nat) (s : Step) : Talk (Except (RunStatus × String) Nat) := do
  Talk.note (.began index)
  match ← (s.action.play ctx index).run with
  | .ok (.goto target) => pure (.ok target)
  | .ok _ => pure (.ok (index + 1))
  | .error (.misconfigured _) => pure (.ok (index + 1))
  | .error .aborted =>
    pure (.error (.aborted, "Stopped at step " ++ Decimal.digits (index + 1)))
  | .error e =>
    pure (.error (.failed, "Error at step " ++ Decimal.digits (index + 1) ++ ": " ++ e.message))

/-- Plays the workflow from a position on, with a number of steps begun before. -/
def playFrom (ctx : Context) : Nat → Nat → Nat → Talk Report
  | 0, _, _ => .halt .outOfRounds
  | rounds + 1, index, executed => do
    match ctx.workflow.steps[index]? with
    | none =>
      let count := Decimal.digits ctx.workflow.steps.length
      pure ⟨.succeeded, "Workflow completed (" ++ count ++ " steps)", executed⟩
    | some s =>
      if ← Talk.stopRequested then
        return ⟨.aborted, "Stopped before step " ++ Decimal.digits (index + 1), executed⟩
      if ctx.workflow.isSkipped s then playFrom ctx rounds (index + 1) executed
      else
        match ← ctx.dispatch index s with
        | .ok target => playFrom ctx rounds target (executed + 1)
        | .error (status, message) => pure ⟨status, message, executed + 1⟩

/-- Plays the workflow. -/
def play (ctx : Context) : Talk Report := ctx.playFrom ctx.rounds 0 0

end Context

end Autoplay
