import Autoplay.Proofs.Run.Makeup
import Autoplay.Proofs.Run.Noting

/-!
# What a cycle is made of

The transcript of a run, and that of the cycle of an account, is made of routine requests, notes and
looks at what was drawn. So a kind of transcripts to which those belong, and joined ones
(`Composed`), is one of the transcripts of whole cycles (`Composed.processAccount`).
-/

namespace Autoplay

open Dialogue

/-- A kind of transcripts to which routine requests, notes and joined transcripts belong. -/
structure Composed (C : Transcript → Prop) : Prop extends Joined C where
  /-- A routine request. -/
  routine : ∀ x : Exchange Request Request.Answer, x.1.isRoutine = true → C [x]
  /-- A note. -/
  noted : ∀ n, C [⟨.note n, ()⟩]

/-- Every routine request is one. -/
theorem allowsRoutine_isRoutine : AllowsRoutine fun q => q.isRoutine = true := fun _ hq => hq

namespace Composed

variable {α β ε : Type} {C : Transcript → Prop} (hC : Composed C)

include hC

/-! ## Parts -/

/-- A part that makes routine requests only. -/
theorem ofAsks {d : Talk α} (hd : d.Asks fun q => q.isRoutine = true) : d.Makes C :=
  hd.makes hC.toJoined hC.routine

/-- So are the checks and notes around steps. -/
theorem aroundSteps : AroundSteps C := ⟨hC.toJoined, fun _ => hC.routine _ rfl, hC.noted⟩

/-- A note. -/
theorem note (n : Note) : (liftM (Talk.note n) : Play Unit).run.Makes C := hC.aroundSteps.note n

/-! ## Steps and the workflow -/

/-- A conditional step. -/
theorem conditional (s : Conditional) (ctx : Context) (index : Nat) :
    (s.play ctx index).run.Makes C := by
  rw [s.play_eq]
  refine hC.bind (hC.ofAsks (s.asks_look allowsRoutine_isRoutine ctx)) fun found => ?_
  exact hC.bind (hC.note _) fun _ => hC.done _

variable {ctx : Context}
  (hgacha : ∀ s ∈ ctx.workflow.steps, ∀ g, s.action = .gachaCheck g → (g.play ctx).run.Makes C)

include hgacha

/-- An action that is not the repetition of a group. -/
theorem playSingle {s : Step} (hs : s ∈ ctx.workflow.steps) (index : Nat) :
    (s.action.playSingle ctx index).run.Makes C := by
  cases ha : s.action with
  | conditional c => exact hC.conditional c ctx index
  | gachaCheck g => exact hgacha s hs g ha
  | _ => exact hC.ofAsks (allowsRoutine_isRoutine.playSingle ctx index nofun nofun)

/-- The run of a workflow from a position on. -/
theorem playFrom (n index executed : Nat) : (ctx.playFrom n index executed).Makes C :=
  hC.aroundSteps.playFrom (fun _ hs index => hC.playSingle hgacha hs index)
    (fun s => hC.ofAsks (allowsRoutine_isRoutine.stopSeen s ctx)) n index executed

end Composed

/-! ## The cycle of an account -/

namespace Composed

variable {C : Transcript → Prop} (hC : Composed C) (s : Settings) {workflow : Option Workflow}
  {rounds : Nat} (hgacha : ∀ w, workflow = some w → ∀ step ∈ w.steps, ∀ g,
    step.action = .gachaCheck g → (g.play ⟨w, s, rounds⟩).run.Makes C)

include hC hgacha

/-- The workflow or the claim routine. -/
theorem runOrClaim : (s.runOrClaim workflow rounds).run.Makes C := by
  cases workflow with
  | none =>
    exact hC.bind (hC.ofAsks (allowsRoutine_isRoutine.claimLooks s _ _ _)) fun _ => hC.done _
  | some w =>
    let ctx : Context := ⟨w, s, rounds⟩
    have hplay : ctx.play.Makes C := hC.playFrom (hgacha w rfl) _ _ _
    refine hC.bind (hC.lift hplay) fun report => ?_
    split <;> exact hC.done _

/-- The game with the account in place. -/
theorem playGame : (s.playGame workflow rounds).run.Makes C := by
  have hP := allowsRoutine_isRoutine
  refine hC.bind (hC.ofAsks (hP.pauseSeconds _)) fun _ => ?_
  refine hC.bind (hC.ofAsks (hP.order rfl)) fun _ => ?_
  refine hC.bind (hC.ofAsks (hP.waitForReady s rounds)) fun _ => ?_
  refine hC.bind (hC.runOrClaim s hgacha) fun _ => ?_
  refine hC.bind (hC.ofAsks (hP.pauseSeconds _)) fun _ => ?_
  exact hC.bind (hC.ofAsks (hP.order rfl)) fun _ => hC.done _

/-- The cycle. -/
theorem cycle (account : String) : (s.cycle account workflow rounds).run.Makes C := by
  have hP := allowsRoutine_isRoutine
  unfold Settings.cycle
  refine hC.bind (hC.ofAsks (hP.order rfl)) fun _ => ?_
  refine hC.bind (hC.ofAsks (hP.pauseSeconds _)) fun _ => ?_
  split
  case' isTrue =>
    refine hC.bind (hC.ofAsks (hP.order rfl)) fun _ => ?_
    refine hC.bind (hC.ofAsks (hP.pauseSeconds _)) fun _ => ?_
  all_goals
    refine hC.bind (hC.ofAsks (hP.order rfl)) fun pushed => ?_
    cases pushed with
    | error e => exact hC.done _
    | ok _ =>
      refine hC.bind (hC.ofAsks hP.checkpoint) fun _ => ?_
      refine hC.bind (hC.ofAsks (hP.copyPrivileged _ _).lift) fun copied => ?_
      cases copied with
      | error e => exact hC.done _
      | ok _ => exact hC.playGame s hgacha

/-- The processing of an account. -/
theorem processAccount (account : String) :
    (s.processAccount account workflow rounds).Makes C :=
  (hC.cycle s hgacha account).bind hC.toJoined fun r => by cases r <;> exact hC.done _

end Composed

end Autoplay
