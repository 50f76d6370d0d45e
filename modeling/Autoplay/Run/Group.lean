import Autoplay.Run.Export
import Autoplay.Run.Gesture
import Autoplay.Run.Jump
import Autoplay.Run.Search

/-!
# Actions and repeated groups

What each action does. The step that repeats a group plays its members in their order, again and
again, until a name is recognised, the stop template turns up or is gone after a pass, or the passes
are used up. A member that fails or wants to go on elsewhere changes nothing.
-/

namespace Autoplay

namespace Action

/-- What an action that is not the repetition of a group does; a repetition does nothing here. -/
def playSingle (ctx : Context) (index : Nat) : Action → Play Flow
  | .click s => s.play ctx
  | .swipe s => s.play ctx
  | .wait s => s.play
  | .imageMatch s => s.play ctx s.matchAll
  | .findAllClick s => s.play ctx true
  | .loopClick s => s.play ctx
  | .waitForColor s => s.play ctx
  | .pressBack => Autoplay.pressBack ctx
  | .conditional s => s.play ctx index
  | .startGame _ => pure .next
  | .restartGame s => s.restart ctx
  | .repeatGroup _ => pure .next
  | .gachaCheck s => s.play ctx

end Action

namespace RepeatGroup

/-- Plays the members once; the result is whether a name was recognised, which ends the pass. -/
def pass (ctx : Context) : List (Nat × Step) → Play Bool
  | [] => pure false
  | (index, member) :: rest => do
    Talk.note (.joined index)
    match ← Play.attempt (member.action.playSingle ctx index) with
    | .ok (.matched _) => pure true
    | _ => pass ctx rest

/-- Whether the stop template tells the loop to end; a screenshot that fails tells nothing. -/
def stopSeen (s : RepeatGroup) (ctx : Context) : Play Bool := do
  match s.stopTemplatePath with
  | none => pure false
  | some template =>
    match ← Play.attempt Play.capture with
    | .error _ => pure false
    | .ok screen =>
      let found := (← ctx.locate screen template s.threshold).isSome
      pure (s.stopOnNotFound != found)

/-- Plays a number of passes, or fewer if the loop is to end. -/
def passes (s : RepeatGroup) (ctx : Context) (members : List (Nat × Step)) : Nat → Play Unit
  | 0 => pure ()
  | n + 1 => do
    Stoppable.checkpoint
    if ← pass ctx members then pure ()
    else if ← s.stopSeen ctx then pure ()
    else passes s ctx members n

/-- Repeats a group. -/
def play (s : RepeatGroup) (ctx : Context) : Play Flow := do
  let group := s.group.getD ""
  if group.isEmpty then throw (.misconfigured "repeat_group without loop_group_name")
  let members := ctx.workflow.members group
  if members.isEmpty then
    throw (.misconfigured ("group `" ++ group ++ "` has no member steps"))
  s.passes ctx members s.maxIterations.toNat
  pure .next

end RepeatGroup

namespace Action

/-- What an action does. -/
def play (ctx : Context) (index : Nat) : Action → Play Flow
  | .repeatGroup s => s.play ctx
  | a => a.playSingle ctx index

end Action

end Autoplay
