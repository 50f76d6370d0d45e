import Autoplay.Run.Step
import Autoplay.Workflow.Validation

/-!
# Jumps

The step that looks at the screen once and goes on elsewhere, depending on what it sees. A
screenshot that fails counts as one without the template.
-/

namespace Autoplay

namespace Conditional

/-- Whether the condition holds when the template is there or not. -/
def holds (s : Conditional) (found : Bool) : Bool :=
  match s.condition with
  | .imageExists => found
  | .imageNotExists => !found

/-- Looks at the screen once, notes the decision, and goes on at the target of the answer. -/
def play (s : Conditional) (ctx : Context) (index : Nat) : Play Flow := do
  let found ←
    match ← Play.attempt Play.capture with
    | .ok screen => pure (← ctx.locate screen s.templatePath s.threshold).isSome
    | .error _ => pure false
  let result := s.holds found
  let label := "conditional " ++ templateDisplayName none s.templatePath
  let decide (branch : Branch) : Play Unit := Talk.note (.decided ⟨index + 1, label, branch⟩)
  match if result then s.gotoOnTrue else s.gotoOnFalse with
  | none =>
    decide .skipped
    pure .next
  | some target =>
    let count := ctx.workflow.steps.length
    if targetInRange target count then
      decide (if result then .thenGo target.toNat else .elseGo target.toNat)
      pure (.goto (target.toNat - 1))
    else
      decide .skipped
      throw (.misconfigured ("goto target " ++ Decimal.digits target.toNat ++ " outside 1..="
        ++ Decimal.digits count))

end Conditional

end Autoplay
