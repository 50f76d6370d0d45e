import Autoplay.Account.Cycle
import Autoplay.Queue.Storage

/-!
# Workers

A worker processes accounts of the queue on one device, one after the other, until there is none
left or it is told to stop. Its work is a sequence of small actions, each of which sees and changes
the queue, the files and its own progress at one moment; between any two of them other workers may
act. Where it stands is its phase. Talking to the device comes in phases of their own: there the
worker waits for the answer to a question.
-/

namespace Autoplay

/-- What is known of the work on one device. -/
structure Progress where
  /-- The device. -/
  serial : String
  /-- The account that is being processed. -/
  current : Option String := none
  /-- The number of accounts that were processed. -/
  processed : Nat := 0
  /-- The number of those that succeeded. -/
  succeeded : Nat := 0
  /-- The number of those that failed. -/
  failed : Nat := 0
  /-- Whether the work goes on. -/
  running : Bool := true
  /-- The last failure. -/
  lastError : Option String := none
deriving DecidableEq, Repr

namespace Progress

/-- Counts an account that was processed; no message is a success. -/
def count (p : Progress) : Option String → Progress
  | none => { p with processed := p.processed + 1, succeeded := p.succeeded + 1 }
  | some message =>
    { p with processed := p.processed + 1, failed := p.failed + 1, lastError := some message }

end Progress

/-- Where a worker stands. -/
inductive Phase where
  /-- It makes sure that the device is there. -/
  | connecting (rest : Talk (Except DeviceError Unit))
  /-- It looks whether it is to stop. -/
  | polling
  /-- It takes an account from the queue. -/
  | taking
  /-- It says which account it has taken. -/
  | announcing (account : Account)
  /-- It processes the account. -/
  | cycling (account : Account) (rest : Talk AccountResult)
  /-- It notes in the queue that the account is done with. -/
  | marking (account : Account) (failure : Option String)
  /-- It counts the account. -/
  | counting (account : Account) (failure : Option String)
  /-- It moves the file of the account away. -/
  | moving (account : Account)
  /-- It waits between two accounts. -/
  | resting (rest : Talk (Except Stopped Unit))
  /-- It says that its work is over. -/
  | leaving
  /-- Its work is over. -/
  | ended
  /-- It broke down. -/
  | crashed

/-- A worker. -/
structure Worker where
  /-- The number of the run that it belongs to. -/
  run : Nat
  /-- What is known of its work. -/
  progress : Progress
  /-- Where it stands. -/
  phase : Phase

/-- What all workers of a run know. -/
structure Plan where
  /-- The settings. -/
  settings : Settings
  /-- The workflow, if there is one. -/
  workflow : Option Workflow
  /-- The number of rounds that a loop without a fixed end may take. -/
  rounds : Nat

namespace Plan

/-- What is done for an account. -/
def cycle (p : Plan) (a : Account) : Talk AccountResult :=
  p.settings.processAccount a.path p.workflow p.rounds

/-- The pause between two accounts. -/
def rest (p : Plan) : Talk (Except Stopped Unit) :=
  (Stoppable.pauseSeconds p.settings.timing.betweenAccounts).run

end Plan

/-- A question of a worker, and where it stands when it has the answer. -/
structure Question where
  /-- The question. -/
  request : Request
  /-- Where the worker stands then. -/
  next : request.Answer → Phase

namespace Phase

/-- The question that a worker waits for the answer to. -/
def question? : Phase → Option Question
  | .connecting (Dialogue.ask q next) => some ⟨q, fun a => .connecting (next a)⟩
  | .cycling account (Dialogue.ask q next) => some ⟨q, fun a => .cycling account (next a)⟩
  | .resting (Dialogue.ask q next) => some ⟨q, fun a => .resting (next a)⟩
  | _ => none

/-- Whether a worker does no more. -/
def isOver : Phase → Bool
  | .ended => true
  | .crashed => true
  | _ => false

end Phase

/-- What a worker sees and changes: the queue, the files, and itself. -/
structure Bench where
  /-- The queue. -/
  queue : AccountQueue
  /-- The files. -/
  files : FileTree
  /-- The worker. -/
  worker : Worker

namespace Bench

/-- The worker stands somewhere else. -/
def enter (b : Bench) (phase : Phase) : Bench := { b with worker := { b.worker with phase } }

/-- Something else is known of the work. -/
def report (b : Bench) (f : Progress → Progress) : Bench :=
  { b with worker := { b.worker with progress := f b.worker.progress } }

/-- The next action of a worker, which is told whether its run is to stop. A worker that waits for
an answer does nothing, nor does one whose work is over. -/
def act (p : Plan) (stopped : Bool) (b : Bench) : Bench :=
  match b.worker.phase with
  | .connecting (.done (.ok ())) => b.enter .polling
  | .connecting (.done (.error e)) =>
    (b.report fun s =>
      { s with
        running := false
        lastError := some ("connection failed: " ++ e.message) }).enter .ended
  | .connecting (.halt _) => b.enter .crashed
  | .connecting (Dialogue.ask _ _) => b
  | .polling => b.enter (if stopped then .leaving else .taking)
  | .taking =>
    match b.queue.next with
    | (some a, queue) => { b with queue }.enter (.announcing a)
    | (none, queue) => { b with queue }.enter .leaving
  | .announcing a =>
    (b.report fun s => { s with current := some a.id }).enter (.cycling a (p.cycle a))
  | .cycling a (.done .succeeded) => b.enter (.marking a none)
  | .cycling a (.done (.failed message)) => b.enter (.marking a (some message))
  | .cycling _ (.done .aborted) => b.enter .leaving
  | .cycling _ (.halt _) => b.enter .crashed
  | .cycling _ (Dialogue.ask _ _) => b
  | .marking a failure =>
    let queue := match b.queue.markProcessed a.id failure with
      | .ok queue => queue
      | .error _ => b.queue
    { b with queue }.enter (.counting a failure)
  | .counting a failure =>
    (b.report fun s => s.count failure).enter
      (if failure.isNone && p.settings.queue.moveOnComplete then .moving a else .resting p.rest)
  | .moving a =>
    let (files, moved) := b.queue.moveToDone p.settings.queue b.files a.id
    let queue := match moved with
      | .ok (_, queue) => queue
      | .error _ => b.queue
    { b with queue, files }.enter (.resting p.rest)
  | .resting (.done (.ok ())) => b.enter .polling
  | .resting (.done (.error _)) => b.enter .leaving
  | .resting (.halt _) => b.enter .crashed
  | .resting (Dialogue.ask _ _) => b
  | .leaving => (b.report fun s => { s with running := false, current := none }).enter .ended
  | .ended => b
  | .crashed => b

end Bench

end Autoplay
