import Autoplay.SystemError

/-!
# Account queue

The accounts of a folder in the order of their names, a cursor up to which they were handed out, and
the set of those that are done with. All devices of a run take their accounts from one queue.
Handing out moves the cursor only; marking an account changes the set only; so a rewound cursor
hands out exactly the accounts that are not done with.
-/

namespace Autoplay

/-- What became of an account. -/
inductive Outcome where
  /-- Nothing yet. -/
  | pending
  /-- It was processed. -/
  | succeeded
  /-- It was processed in vain. -/
  | failed (message : String)
  /-- Its file was broken and has been deleted. -/
  | discarded
deriving DecidableEq, Repr

/-- An account of a queue. -/
structure Account where
  /-- The name of its file. -/
  id : String
  /-- Where its file is. -/
  path : String
  /-- What became of it. -/
  outcome : Outcome := .pending
deriving DecidableEq, Repr

/-- Accounts that are to be processed. -/
structure AccountQueue where
  /-- The folder that they were loaded from. -/
  folder : Option String := none
  /-- The accounts, by name. -/
  accounts : List Account := []
  /-- The number of accounts that the cursor has passed. -/
  cursor : Nat := 0
  /-- The names of the accounts that are done with. -/
  processed : List String := []
deriving DecidableEq, Repr

/-- What a queue wants to do to a file or folder. -/
inductive FileAction where
  /-- List a folder. -/
  | read
  /-- Make a folder. -/
  | create
  /-- Move a file. -/
  | move
  /-- Delete a file. -/
  | delete
deriving DecidableEq, Repr

/-- The word for an action. -/
def FileAction.name : FileAction → String
  | .read => "read"
  | .create => "create"
  | .move => "move"
  | .delete => "delete"

/-- Why a queue cannot do something. -/
inductive QueueError where
  /-- The path is no folder. -/
  | invalidFolder (path : String)
  /-- There is no such account. -/
  | unknownAccount (id : String)
  /-- A file or folder cannot be dealt with. -/
  | files (action : FileAction) (path : String) (reason : SystemError)
deriving DecidableEq, Repr

/-- The wording of an error. -/
def QueueError.message : QueueError → String
  | .invalidFolder path => "invalid account folder: " ++ path
  | .unknownAccount id => "unknown account: " ++ id
  | .files action path reason =>
    "failed to " ++ action.name ++ " " ++ path ++ ": " ++ reason.text

namespace AccountQueue

/-- The account of a name. -/
def find? (q : AccountQueue) (id : String) : Option Account :=
  q.accounts.find? fun a => a.id == id

/-- Adds a name to the accounts that are done with. -/
def addProcessed (id : String) (processed : List String) : List String :=
  if id ∈ processed then processed else processed ++ [id]

/-- Replaces the first account of a name. -/
def replace (f : Account → Account) (id : String) : List Account → List Account
  | [] => []
  | a :: rest => if a.id = id then f a :: rest else a :: replace f id rest

/-- The first account in a list that is not done with, and how many accounts stand before and
at it. -/
def firstOpen (processed : List String) : List Account → Option (Account × Nat)
  | [] => none
  | a :: rest =>
    if a.id ∈ processed then (firstOpen processed rest).map fun (b, n) => (b, n + 1)
    else some (a, 1)

/-- Hands out the next account that is not done with, and moves the cursor behind it. -/
def next (q : AccountQueue) : Option Account × AccountQueue :=
  match firstOpen q.processed (q.accounts.drop q.cursor) with
  | some (a, n) => (some a, { q with cursor := q.cursor + n })
  | none => (none, { q with cursor := max q.cursor q.accounts.length })

/-- Notes what became of an account, and that it is done with; the last note counts. -/
def mark (q : AccountQueue) (id : String) (outcome : Outcome) :
    Except QueueError AccountQueue :=
  match q.find? id with
  | none => .error (.unknownAccount id)
  | some _ =>
    .ok { q with
      accounts := replace (fun a => { a with outcome }) id q.accounts
      processed := addProcessed id q.processed }

/-- Notes the result of processing an account: no message is a success. -/
def markProcessed (q : AccountQueue) (id : String) (failure : Option String) :
    Except QueueError AccountQueue :=
  q.mark id (match failure with
    | none => .succeeded
    | some message => .failed message)

/-- Starts handing out again with the first account that is not done with. -/
def rewind (q : AccountQueue) : AccountQueue := { q with cursor := 0 }

/-- Starts again with no account done with. -/
def reset (q : AccountQueue) : AccountQueue :=
  { q with
    cursor := 0
    processed := []
    accounts := q.accounts.map fun a => { a with outcome := .pending } }

/-- The number of accounts. -/
def total (q : AccountQueue) : Nat := q.accounts.length

/-- The number of accounts that are done with. -/
def processedCount (q : AccountQueue) : Nat := q.processed.length

/-- The number of accounts that are not done with. -/
def remaining (q : AccountQueue) : Nat := q.total - q.processedCount

end AccountQueue

end Autoplay
