import Autoplay.Workflow.Basic

/-!
# Choosing a workflow

Among the workflows of a mode, those for the month come first, and of these the first master, or
simply the first. If there is none for the month, the workflow is chosen that is greatest by being a
master and by its last change, the earliest in the list among equals.
-/

namespace Autoplay

namespace Workflow

/-- The rank of a workflow of the right mode: masters first, then the later change; no change counts
as earliest. -/
def outranks (a b : Workflow) : Bool :=
  if a.isMaster != b.isMaster then a.isMaster
  else
    match a.updatedAt, b.updatedAt with
    | some x, some y => !x.notAfter y
    | some _, none => true
    | none, _ => false

/-- The better of the best so far and the next workflow. -/
def better (best : Option Workflow) (w : Workflow) : Option Workflow :=
  match best with
  | none => some w
  | some b => if w.outranks b then some w else some b

/-- The first master, or the first workflow if none is a master. -/
def preferMaster (best : Option Workflow) (w : Workflow) : Option Workflow :=
  match best with
  | none => some w
  | some b => if b.isMaster || !w.isMaster then some b else some w

/-- The workflow for a mode and a month. -/
def select (workflows : List Workflow) (mode month : String) : Option Workflow :=
  let forMode := workflows.filter fun w => w.modeName == some mode
  let exact := (forMode.filter fun w => w.monthYear == some month).foldl preferMaster none
  match exact with
  | some w => some w
  | none => forMode.foldl better none

/-- The workflow for a mode and a month among those that are valid at a moment; if no month is
given, it is that of the moment. -/
def selectValid (workflows : List Workflow) (mode : String) (month : Option String) (now : Moment) :
    Option Workflow :=
  select (workflows.filter fun w => w.isValidAt now) mode (month.getD now.date.monthText)

end Workflow

end Autoplay
