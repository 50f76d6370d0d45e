import Autoplay.Account.Claim
import Autoplay.Run.Program
import Autoplay.Text.Blank

/-!
# The cycle of an account

What is done for one account on one device: the game is closed, its cache emptied, the account file
put into place, and the game started. When it has loaded, the workflow or the claim routine runs,
and the game is closed again. A file that cannot be put into place ends the cycle at once.
-/

namespace Autoplay

/-- How the cycle of an account ended. -/
inductive AccountResult where
  /-- All went well. -/
  | succeeded
  /-- Something failed. -/
  | failed (message : String)
  /-- It was told to stop. -/
  | aborted
deriving DecidableEq, Repr

/-- The folder part of a path on the device; a path without a separator lies in `.`. -/
def remoteParent (path : String) : String :=
  match path.toList.reverse.dropWhile (· ≠ '/') with
  | [] => "."
  | _ :: before => String.ofList before.reverse

/-- Copies a file on the device to a place that only the system may write, and gives it the rights
and the owner that it needs there. Only the copying itself may fail. -/
def copyPrivileged (source dest : String) : Talk (Except DeviceError Unit) := do
  match ← Talk.command (.privileged ("cp '" ++ source ++ "' '" ++ dest ++ "'")) with
  | .error e => pure (.error e)
  | .ok _ =>
    let _ ← Talk.command (.privileged ("chmod 660 '" ++ dest ++ "'"))
    let owner ←
      match ← Talk.command (.privileged ("stat -c '%U:%G' '" ++ remoteParent dest ++ "'")) with
      | .ok out =>
        let out : String := out
        pure (if Text.allBlank out then "system:system" else Text.trim out)
      | .error _ => pure "system:system"
    let _ ← Talk.command (.privileged ("chown " ++ owner ++ " '" ++ dest ++ "'"))
    pure (.ok ())

namespace Settings

/-- Whether any of some templates is on a screen; they are asked for in their order up to the first
hit. -/
def anyReady (s : Settings) (screen : Picture) : List String → Talk Bool
  | [] => pure false
  | t :: rest => do
    match ← s.locateBuiltin screen t with
    | some _ => pure true
    | none => anyReady s screen rest

/-- Looks whether the game has loaded until it has or the time is up. -/
def readyLooks (s : Settings) (started : Nat) (limit poll : Duration) : Nat → Stoppable Bool
  | 0 => (Dialogue.halt .outOfRounds : Talk Bool)
  | rounds + 1 => do
    Stoppable.checkpoint
    let elapsed := (← Talk.clock) - started
    if limit.nanos ≤ elapsed then return false
    let ready ←
      match ← Talk.command .screenshot with
      | .ok screen => s.anyReady screen s.templates.ready
      | .error _ => pure false
    if ready then return true
    Stoppable.pause poll
    readyLooks s started limit poll rounds

/-- Waits until the game has loaded; the result is whether it did in time. -/
def waitForReady (s : Settings) (rounds : Nat) : Stoppable Bool := do
  let limit ← Talk.seconds s.timing.loadTimeout
  let poll ← Talk.seconds s.timing.readyPoll
  let started ← Talk.clock
  s.readyLooks started limit poll rounds

/-- Runs the workflow, or the claim routine if there is none. -/
def runOrClaim (s : Settings) (workflow : Option Workflow) (rounds : Nat) :
    Stoppable AccountResult := do
  match workflow with
  | some w =>
    let report ← Context.play ⟨w, s, rounds⟩
    match report.status with
    | .succeeded => pure .succeeded
    | .failed => pure (.failed report.message)
    | .aborted => throw ⟨⟩
  | none =>
    let _ ← s.claimRewards
    pure .succeeded

/-- Starts the game with the account in place, runs it, and closes it. -/
def playGame (s : Settings) (workflow : Option Workflow) (rounds : Nat) :
    Stoppable AccountResult := do
  Stoppable.pauseSeconds s.timing.postPushWait
  let _ ← Stoppable.order (.startApp s.game.package)
  let _ ← s.waitForReady rounds
  let outcome ← s.runOrClaim workflow rounds
  Stoppable.pauseSeconds s.timing.beforeCloseWait
  let _ ← Stoppable.order (.forceStop s.game.package)
  pure outcome

/-- The cycle of an account, from the closing of the game to the next one. -/
def cycle (s : Settings) (account : String) (workflow : Option Workflow) (rounds : Nat) :
    Stoppable AccountResult := do
  let _ ← Stoppable.order (.forceStop s.game.package)
  Stoppable.pauseSeconds s.timing.appCloseWait
  if s.game.clearCache then
    let _ ← Stoppable.order
      (.privileged ("rm -rf /data/data/" ++ s.game.package ++ "/cache/*"))
    Stoppable.pauseSeconds s.timing.cacheClearWait
  match ← Stoppable.order (.push account s.game.pushTempPath) with
  | .error e => pure (.failed ("Failed to push account file: " ++ e.message))
  | .ok () =>
    Stoppable.checkpoint
    match ← copyPrivileged s.game.pushTempPath s.game.prefPath with
    | .error e => pure (.failed ("Failed to copy account file with root: " ++ e.message))
    | .ok () => s.playGame workflow rounds

/-- Processes an account; a stop leaves it unprocessed. -/
def processAccount (s : Settings) (account : String) (workflow : Option Workflow) (rounds : Nat) :
    Talk AccountResult := do
  match ← (s.cycle account workflow rounds).run with
  | .ok result => pure result
  | .error _ => pure .aborted

end Settings

end Autoplay
