import Autoplay.Proofs.Dialogue.Rules
import Autoplay.Run.Group

/-!
# The position of the step that runs

A step that repeats a group moves to each member before that plays, and back to its own position
afterwards, whatever comes of the member. `RepeatGroup.placed` is the repetition with the position
as a state: a member reads the position that was moved to, and a failure keeps the position that it
happens at. The main statement, `placed_keeps`, says that the repetition does the same with the
position as without, and that its own position is the current one again however it ends.
-/

namespace Autoplay

variable {α β : Type}

/-- A part of a step that reads and moves the position of the step that runs. A failure keeps the
position. -/
abbrev Placed := ExceptT StepError (StateT Nat Talk)

namespace Placed

/-- A part that has nothing to do with the position. -/
def of (p : Play α) : Placed α := ExceptT.mk (StateT.lift p.run)

/-- What such a part comes to, failures included. -/
def outcome (p : Play α) : Placed (Except StepError α) := ExceptT.lift (StateT.lift p.run)

/-- The current position. -/
def here : Placed Nat := ExceptT.lift get

/-- Moves to a position. -/
def move (index : Nat) : Placed Unit := ExceptT.lift (set index)

/-- A part does the same as another one does without the position, and however it ends, the position
is where it was. -/
def Keeps (own : Nat) (x : Placed α) (p : Play α) : Prop :=
  x.run.run own = p.run.bind fun r => .done (r, own)

section

variable {own : Nat}

/-- A part that has nothing to do with the position. -/
theorem keeps_of (p : Play α) : Keeps own (of p) p := rfl

/-- A failure at once, whatever would follow. -/
theorem keeps_throw (e : StepError) (f : α → Placed β) (g : α → Play β) :
    Keeps own (throw e >>= f) (throw e >>= g) := rfl

/-- What follows a look at the position goes on from it. -/
theorem keeps_here {f : Nat → Placed α} {p : Play α} (h : Keeps own (f own) p) :
    Keeps own (here >>= f) p := h

/-- Joined parts. -/
theorem Keeps.bind {x : Placed α} {p : Play α} {f : α → Placed β} {g : α → Play β}
    (hx : Keeps own x p) (hf : ∀ a, Keeps own (f a) (g a)) : Keeps own (x >>= f) (p >>= g) := by
  -- A failure of the first part keeps the position that the part ends at.
  have hjoin : (x >>= f).run.run own = (x.run.run own).bind fun
      | (.ok a, pos) => (f a).run.run pos
      | (.error e, pos) => .done (.error e, pos) := by
    show Dialogue.bind (x.run.run own) _ = _
    congr 1
    funext ⟨r, pos⟩
    cases r <;> rfl
  unfold Keeps
  rw [hjoin, hx, Dialogue.bind_assoc, Dialogue.run_bind_except, Dialogue.bind_assoc]
  congr 1
  funext r
  cases r with
  | ok a => exact hf a
  | error e => rfl

end

end Placed

namespace RepeatGroup

open Placed (here move of outcome)

/-- Plays a member at its position and goes back to another one, also when the member is stopped. -/
def placedMember (ctx : Context) (own index : Nat) (member : Action) :
    Placed (Except StepError Flow) := do
  move index
  let result ← outcome (member.playSingle ctx (← here))
  move own
  match result with
  | .error .aborted => throw .aborted
  | result => pure result

/-- Plays the members once. -/
def placedPass (ctx : Context) (own : Nat) : List (Nat × Step) → Placed Bool
  | [] => pure false
  | (index, member) :: rest => do
    of (Talk.note (.joined index))
    match ← placedMember ctx own index member.action with
    | .ok (.matched _) => pure true
    | _ => placedPass ctx own rest

/-- Plays a number of passes, or fewer if the loop is to end. -/
def placedPasses (s : RepeatGroup) (ctx : Context) (own : Nat) (members : List (Nat × Step)) :
    Nat → Placed Unit
  | 0 => pure ()
  | n + 1 => do
    of Stoppable.checkpoint
    if ← placedPass ctx own members then pure ()
    else if ← of (s.stopSeen ctx) then pure ()
    else placedPasses s ctx own members n

/-- Repeats a group. -/
def placed (s : RepeatGroup) (ctx : Context) : Placed Flow := do
  let group := s.group.getD ""
  if group.isEmpty then throw (.misconfigured "repeat_group without loop_group_name")
  let members := ctx.workflow.members group
  if members.isEmpty then
    throw (.misconfigured ("group `" ++ group ++ "` has no member steps"))
  let own ← here
  s.placedPasses ctx own members s.maxIterations.toNat
  pure .next

section

variable {ctx : Context} {own : Nat}

/-- A member is played at its own position, and only a stop is passed on. -/
theorem placedMember_keeps (index : Nat) (member : Action) :
    Placed.Keeps own (placedMember ctx own index member)
      (Play.attempt (member.playSingle ctx index)) := by
  let p := (member.playSingle ctx index).run
  show Dialogue.bind (Dialogue.bind (Dialogue.bind p _) _) _ = Dialogue.bind (Dialogue.bind p _) _
  -- What follows the member moves back before it looks at how the member ended.
  rw [Dialogue.bind_assoc, Dialogue.bind_assoc, Dialogue.bind_assoc]
  congr 1
  funext r
  cases r with
  | ok flow => rfl
  | error e => cases e <;> rfl

/-- A pass. -/
theorem placedPass_keeps (members : List (Nat × Step)) :
    Placed.Keeps own (placedPass ctx own members) (pass ctx members) := by
  induction members with
  | nil => rfl
  | cons m rest ih =>
    refine Placed.Keeps.bind (Placed.keeps_of _) fun _ => ?_
    refine Placed.Keeps.bind (placedMember_keeps m.1 m.2.action) fun outcome => ?_
    match outcome with
    | .ok (.matched name) => rfl
    | .ok .next => exact ih
    | .ok (.goto target) => exact ih
    | .error e => exact ih

/-- All passes. -/
theorem placedPasses_keeps (s : RepeatGroup) (members : List (Nat × Step)) (n : Nat) :
    Placed.Keeps own (s.placedPasses ctx own members n) (s.passes ctx members n) := by
  induction n with
  | zero => rfl
  | succ n ih =>
    refine Placed.Keeps.bind (Placed.keeps_of _) fun _ => ?_
    refine Placed.Keeps.bind (placedPass_keeps members) fun hit => ?_
    split
    · rfl
    refine Placed.Keeps.bind (Placed.keeps_of _) fun seen => ?_
    split
    · rfl
    · exact ih

/-- The repetition of a group. -/
theorem placed_keeps (s : RepeatGroup) : Placed.Keeps own (s.placed ctx) (s.play ctx) := by
  have hplay (members : List (Nat × Step)) : Placed.Keeps own
      (here >>= fun own => s.placedPasses ctx own members s.maxIterations.toNat >>= fun _ =>
        (pure .next : Placed Flow))
      (s.passes ctx members s.maxIterations.toNat >>= fun _ => (pure .next : Play Flow)) :=
    Placed.keeps_here ((s.placedPasses_keeps _ _).bind fun _ => rfl)
  unfold placed play
  dsimp only
  split
  · exact Placed.keeps_throw _ _ _
  split
  · exact Placed.keeps_throw _ _ _
  · exact hplay _

end

end RepeatGroup

end Autoplay
