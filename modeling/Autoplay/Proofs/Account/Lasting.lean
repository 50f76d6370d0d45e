import Autoplay.Proofs.Run.Lasting

/-!
# How the processing of an account breaks off

The waits of an account are those of its cycle and those of the workflow or of the claim routine.
The main statement, `lasts_processAccount`, says that its processing breaks off only at one of them
that is too long, or when it has been answered as often as there are rounds.
-/

namespace Autoplay

open Dialogue (Lasts)

section

variable {P : Breakdown → Prop}

/-- Copying the account file into place. -/
theorem halts_copyPrivileged (source dest : String) : (copyPrivileged source dest).Halts P := by
  refine (halts_ask _).bind fun copied => ?_
  cases copied with
  | error e => exact trivial
  | ok _ =>
    refine (halts_ask _).bind fun _ => ?_
    refine (halts_ask _).bind fun owner => ?_
    cases owner <;> exact (halts_ask _).bind fun _ => trivial

end

namespace Settings

variable (s : Settings)

/-- The waits of the cycle of an account, in seconds. -/
def cycleWaits (workflow : Option Workflow) : List Float :=
  [s.timing.appCloseWait, s.timing.postPushWait, s.timing.loadTimeout, s.timing.readyPoll,
    s.timing.beforeCloseWait]
    ++ (if s.game.clearCache then [s.timing.cacheClearWait] else [])
    ++ match workflow with
      | some w => w.waits s.timing
      | none => s.claimWaits

variable {waits : List Float} {n : Nat}

/-- The workflow or the claim routine. -/
theorem lasts_runOrClaim (workflow : Option Workflow)
    (hwaits : s.cycleWaits workflow ⊆ waits) {rounds : Nat} (hn : n ≤ rounds) :
    (s.runOrClaim workflow rounds).run.Lasts (TooLong waits) n := by
  cases workflow with
  | some w =>
    have hworkflow : w.waits s.timing ⊆ waits :=
      fun x hx => hwaits (List.mem_append_right _ hx)
    have hplay : (Context.play ⟨w, s, rounds⟩).Lasts (TooLong waits) n :=
      (lasts_play ⟨w, s, rounds⟩).mono (fun _ hb => hb.mono hworkflow) hn
    refine lasts_lift hplay fun report => ?_
    split <;> exact trivial
  | none =>
    have hclaim : s.claimWaits ⊆ waits := fun x hx => hwaits (List.mem_append_right _ hx)
    have hrewards : s.claimRewards.run.Halts (TooLong waits) :=
      s.halts_claimRewards.mono fun b hb => TooLong.mono hb hclaim
    exact (hrewards.lasts n).bind_except fun _ => trivial

/-- The game with the account in place. -/
theorem lasts_playGame (workflow : Option Workflow) (hwaits : s.cycleWaits workflow ⊆ waits)
    {rounds : Nat} (hn : n ≤ rounds) : (s.playGame workflow rounds).run.Lasts (TooLong waits) n := by
  have hmem {x : Float} (hx : x ∈ s.cycleWaits workflow) : x ∈ waits := hwaits hx
  unfold playGame
  refine (lasts_pauseSeconds (hmem (by simp [cycleWaits]))).bind_except fun _ => ?_
  refine ((halts_order _).lasts n).bind_except fun _ => ?_
  refine (s.lasts_waitForReady (hmem (by simp [cycleWaits])) (hmem (by simp [cycleWaits]))
    hn).bind_except fun _ => ?_
  refine (s.lasts_runOrClaim workflow hwaits hn).bind_except fun outcome => ?_
  refine (lasts_pauseSeconds (hmem (by simp [cycleWaits]))).bind_except fun _ => ?_
  exact ((halts_order _).lasts n).bind_except fun _ => trivial

/-- The cycle of an account. -/
theorem lasts_cycle (account : String) (workflow : Option Workflow)
    (hwaits : s.cycleWaits workflow ⊆ waits) {rounds : Nat} (hn : n ≤ rounds) :
    (s.cycle account workflow rounds).run.Lasts (TooLong waits) n := by
  have hmem {x : Float} (hx : x ∈ s.cycleWaits workflow) : x ∈ waits := hwaits hx
  unfold cycle
  refine ((halts_order _).lasts n).bind_except fun _ => ?_
  refine (lasts_pauseSeconds (hmem (by simp [cycleWaits]))).bind_except fun _ => ?_
  split
  case' isTrue hclear =>
    have hcache : s.timing.cacheClearWait ∈ waits := hmem (by simp [cycleWaits, hclear])
    refine ((halts_order _).lasts n).bind_except fun _ => ?_
    refine (lasts_pauseSeconds hcache).bind_except fun _ => ?_
  all_goals
    refine ((halts_order _).lasts n).bind_except fun pushed => ?_
    cases pushed with
    | error e => exact trivial
    | ok _ =>
      refine (halts_checkpoint.lasts n).bind_except fun _ => ?_
      refine lasts_lift ((halts_copyPrivileged _ _).lasts n) fun copied => ?_
      cases copied with
      | error e => exact trivial
      | ok _ => exact s.lasts_playGame workflow hwaits hn

/-- The processing of an account breaks off only at a wait that is too long, unless it is answered
as often as there are rounds. -/
theorem lasts_processAccount (account : String) (workflow : Option Workflow) (rounds : Nat) :
    (s.processAccount account workflow rounds).Lasts (TooLong (s.cycleWaits workflow)) rounds := by
  refine (s.lasts_cycle account workflow (fun _ hx => hx) (Nat.le_refl rounds)).bind fun r => ?_
  cases r <;> exact trivial

end Settings

end Autoplay
