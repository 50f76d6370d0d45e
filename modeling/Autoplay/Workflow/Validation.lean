import Autoplay.Decimal.Notation
import Autoplay.Text.Blank
import Autoplay.Workflow.Basic

/-!
# Checking a workflow before it runs

The mistakes of a workflow that can be seen without a device: a repeated group without a name or
without steps, a jump to a step that is not there, no name to look for, and a colour that does not
have three channels.
-/

namespace Autoplay

/-- A mistake in a step. -/
inductive Flaw where
  /-- A group is to be repeated, but it has no name. -/
  | unnamedGroup
  /-- A group is to be repeated, but no step belongs to it. -/
  | emptyGroup (group : String)
  /-- A jump leads to no step; `field` is the field that names it. -/
  | badTarget (field : String) (target count : Nat)
  /-- No name to look for. -/
  | noTargets
  /-- A colour with another number of channels. -/
  | badColor (channels : Nat)
deriving DecidableEq, Repr

namespace Flaw

/-- The wording of a flaw. -/
def message : Flaw → String
  | .unnamedGroup => "missing loop_group_name"
  | .emptyGroup g => "group `" ++ g ++ "` has no member steps"
  | .badTarget field target count =>
    field ++ "=" ++ Decimal.digits target ++ " outside 1..=" ++ Decimal.digits count
  | .noTargets => "no target_characters"
  | .badColor n => "expected_color needs 3 channels, got " ++ Decimal.digits n

end Flaw

/-- A flaw and the step that has it. -/
structure Issue where
  /-- Number of the step, from 1. -/
  step : Nat
  /-- Kind of the step. -/
  kind : String
  /-- The flaw. -/
  flaw : Flaw

namespace Issue

/-- The wording of an issue. -/
def message (i : Issue) : String :=
  "step " ++ Decimal.digits i.step ++ " (" ++ i.kind ++ "): " ++ i.flaw.message

end Issue

/-- A jump target is good when it is the number of a step. -/
def targetInRange (target : UInt64) (count : Nat) : Bool :=
  target != 0 && target.toNat ≤ count

/-- The wanted names without the blanks around them, blank ones left out. -/
def GachaCheck.wanted (g : GachaCheck) : List String :=
  (g.targets.map Text.trim).filter fun t => !t.isEmpty

namespace Workflow

/-- The flaw of one jump. -/
def targetFlaws (w : Workflow) (field : String) : Option UInt64 → List Flaw
  | none => []
  | some t =>
    if targetInRange t w.steps.length then [] else [.badTarget field t.toNat w.steps.length]

/-- The flaws of an action. -/
def flaws (w : Workflow) : Action → List Flaw
  | .repeatGroup r =>
    match r.group with
    | none => [.unnamedGroup]
    | some g =>
      if g.isEmpty then [.unnamedGroup]
      else if (w.members g).isEmpty then [.emptyGroup g]
      else []
  | .conditional c =>
    w.targetFlaws "goto_step_on_true" c.gotoOnTrue
      ++ w.targetFlaws "goto_step_on_false" c.gotoOnFalse
  | .gachaCheck g => if g.targets.all Text.allBlank then [.noTargets] else []
  | .waitForColor c => if c.expectedBgr.isNone then [.badColor c.expectedColor.length] else []
  | _ => []

/-- The issues of a workflow, by step. -/
def validate (w : Workflow) : List Issue :=
  w.steps.zipIdx.flatMap fun (s, i) =>
    (w.flaws s.action).map fun f => ⟨i + 1, s.action.kind, f⟩

end Workflow

end Autoplay
