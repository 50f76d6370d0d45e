import Autoplay.Proofs.Run.Journey
import Autoplay.Proofs.Run.Routine

/-!
# What a run is made of

The transcript of a run is made of those of its steps, of the members of repeated groups and of the
looks for a stop template, with checks and notes around them. So a kind of transcripts to which
those belong, and joined ones, is one of the transcripts of whole runs (`AroundSteps.playFrom`).
-/

namespace Autoplay

open Dialogue

section

variable {α β ε : Type} {C : Transcript → Prop}

namespace Dialogue.Joined

variable (hC : Joined C)

include hC

/-- A result at once. -/
theorem done (a : α) : (Dialogue.done a : Talk α).Makes C := makes_done hC a

/-- Joined parts that may fail. -/
theorem bind {x : ExceptT ε Talk β} {f : β → ExceptT ε Talk α} (hx : x.run.Makes C)
    (hf : ∀ b, (f b).run.Makes C) : (x >>= f).run.Makes C :=
  hx.bind_except hC hf

/-- A part that never fails, as one that may. -/
theorem lift {d : Talk α} (hd : d.Makes C) : (ExceptT.lift d : ExceptT ε Talk α).run.Makes C :=
  hd.bind hC fun _ => hC.done _

/-- A part that breaks off at a stop, as a part of a step. -/
theorem inPlay {x : Stoppable α} (hx : x.run.Makes C) : (liftM x : Play α).run.Makes C :=
  hx.bind hC fun r => by cases r <;> exact hC.done _

/-- A part of a step whose failure does not matter. -/
theorem attempt {p : Play α} (hp : p.run.Makes C) : (Play.attempt p).run.Makes C :=
  hp.bind hC fun r => by split <;> exact hC.done _

end Dialogue.Joined

/-- A kind of transcripts to which the checks and notes around steps belong, and joined transcripts.
-/
structure AroundSteps (C : Transcript → Prop) : Prop extends Joined C where
  /-- A check. -/
  check : ∀ told, C [⟨.stopRequested, told⟩]
  /-- A note. -/
  noted : ∀ n, C [⟨.note n, ()⟩]

namespace AroundSteps

variable (hC : AroundSteps C)

include hC

/-- A check. -/
theorem checkpoint : Stoppable.checkpoint.run.Makes C :=
  hC.bind (hC.lift (makes_request hC.check)) fun told => by cases told <;> exact hC.done _

/-- A note. -/
theorem note (n : Note) : (liftM (Talk.note n) : Play Unit).run.Makes C :=
  hC.inPlay (hC.lift (makes_request fun _ => hC.noted n))

variable {ctx : Context}

/-- A pass of a group. -/
theorem pass {members : List (Nat × Step)}
    (hsingle : ∀ m ∈ members, (m.2.action.playSingle ctx m.1).run.Makes C) :
    (RepeatGroup.pass ctx members).run.Makes C := by
  induction members with
  | nil => exact hC.done _
  | cons m rest ih =>
    obtain ⟨hm, hrest⟩ := List.forall_mem_cons.1 hsingle
    refine hC.bind (hC.note _) fun _ => ?_
    refine hC.bind (hC.attempt hm) fun r => ?_
    split
    · exact hC.done _
    · exact ih hrest

/-- The passes of a group. -/
theorem passes {s : RepeatGroup} {members : List (Nat × Step)}
    (hsingle : ∀ m ∈ members, (m.2.action.playSingle ctx m.1).run.Makes C)
    (hstop : (s.stopSeen ctx).run.Makes C) (n : Nat) : (s.passes ctx members n).run.Makes C := by
  induction n with
  | zero => exact hC.done _
  | succ n ih =>
    unfold RepeatGroup.passes
    refine hC.bind (hC.inPlay hC.checkpoint) fun _ => ?_
    refine hC.bind (hC.pass hsingle) fun hit => ?_
    split
    · exact hC.done _
    refine hC.bind hstop fun seen => ?_
    split
    · exact hC.done _
    · exact ih

variable (hsingle : ∀ s ∈ ctx.workflow.steps, ∀ index, (s.action.playSingle ctx index).run.Makes C)
  (hstop : ∀ s : RepeatGroup, (s.stopSeen ctx).run.Makes C)

include hsingle hstop

/-- An action. -/
theorem action {s : Step} (hs : s ∈ ctx.workflow.steps) (index : Nat) :
    (s.action.play ctx index).run.Makes C := by
  have hrepeat (g : RepeatGroup) : (g.play ctx).run.Makes C := by
    unfold RepeatGroup.play
    dsimp only
    split
    · exact hC.done _
    split
    · exact hC.done _
    · refine hC.bind (hC.passes (fun m hm => ?_) (hstop g) _) fun _ => hC.done _
      exact hsingle m.2 (List.mem_of_getElem? (Workflow.of_mem_members hm).1) m.1
  unfold Action.play
  split
  · exact hrepeat _
  · exact hsingle s hs index

/-- The play of a step. -/
theorem dispatch {s : Step} (hs : s ∈ ctx.workflow.steps) (index : Nat) :
    (ctx.dispatch index s).Makes C := by
  refine Makes.bind hC.toJoined (makes_request fun _ => hC.noted _) fun _ => ?_
  refine (hC.action hsingle hstop hs index).bind hC.toJoined fun r => ?_
  split <;> exact hC.done _

/-- The run of a workflow from a position on. -/
theorem playFrom (n index executed : Nat) : (ctx.playFrom n index executed).Makes C := by
  induction n generalizing index executed with
  | zero => exact makes_halt hC.toJoined _
  | succ n ih =>
    unfold Context.playFrom
    split
    · exact hC.done _
    next s hs =>
    refine Makes.bind hC.toJoined (makes_request hC.check) fun stop => ?_
    split
    · exact hC.done _
    split
    · exact ih _ _
    refine (hC.dispatch hsingle hstop (List.mem_of_getElem? hs) _).bind hC.toJoined fun r => ?_
    split
    · exact ih _ _
    · exact hC.done _

end AroundSteps

end

end Autoplay
