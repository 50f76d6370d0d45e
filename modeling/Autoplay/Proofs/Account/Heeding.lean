import Autoplay.Account.Cycle
import Autoplay.Proofs.Run.Heeding

/-!
# The cycle of an account heeds a stop

The claim routine, the wait until the game has loaded and everything around the workflow break off
when they are told to stop. The main statement, `heeds_processAccount`, says that the result of a
cycle is `aborted` just when the cycle was told to stop.
-/

namespace Autoplay.Settings

variable {comes : Bool} {rounds : Nat}

/-- A question about a screen never asks whether to stop. -/
theorem calm_locateBuiltin (s : Settings) (screen : Picture) (template : String) :
    Calm comes rounds (s.locateBuiltin screen template) := by
  refine Heeds.bind_calm (calm_ask rfl) fun r => ?_
  cases r <;> exact heeds_done id rfl

/-- The search for a button never asks whether to stop. -/
theorem calm_firstButton (s : Settings) (screen : Picture) (bs : List ClaimButton) :
    Calm comes rounds (s.firstButton screen bs) := by
  induction bs with
  | nil => exact heeds_done id rfl
  | cons b rest ih =>
    refine (calm_locateBuiltin _ _ _).bind_calm fun hit => ?_
    cases hit with
    | some p => exact heeds_done id rfl
    | none => exact ih

/-- The looks of the claim routine. -/
theorem obeys_claimLooks (s : Settings) (looks : Nat) (summary : ClaimSummary) (misses : Nat) :
    Obeys comes rounds ⟨⟩ (s.claimLooks looks summary misses) := by
  induction looks generalizing summary misses with
  | zero => exact heedsAs_pure rfl
  | succ looks ih =>
    unfold claimLooks
    refine obeys_checkpoint.bind fun _ => ?_
    refine (obeys_stoppable (calm_ask rfl)).bind fun shot => ?_
    cases shot with
    | error e => exact (obeys_pauseSeconds _).bind fun _ => ih _ _
    | ok screen =>
      refine (obeys_stoppable (calm_firstButton _ _ _)).bind fun hit => ?_
      cases hit with
      | some hit =>
        exact (obeys_order _).bind fun _ => (obeys_pauseSeconds _).bind fun _ => ih _ _
      | none =>
        dsimp only
        split
        · exact heedsAs_pure rfl
        · exact (obeys_pauseSeconds _).bind fun _ => ih _ _

/-- The search for what is on the screen when the game has loaded never asks whether to stop. -/
theorem calm_anyReady (s : Settings) (screen : Picture) (templates : List String) :
    Calm comes rounds (s.anyReady screen templates) := by
  induction templates with
  | nil => exact heeds_done id rfl
  | cons t rest ih =>
    refine (calm_locateBuiltin _ _ _).bind_calm fun hit => ?_
    cases hit with
    | some p => exact heeds_done id rfl
    | none => exact ih

/-- The wait until the game has loaded makes an entry in each round. -/
theorem obeys_readyLooks (s : Settings) (started : Nat) (limit poll : Duration) (rounds : Nat) :
    Obeys comes rounds ⟨⟩ (s.readyLooks started limit poll rounds) := by
  induction rounds with
  | zero => exact obeys_stoppable heeds_outOfRounds
  | succ rounds ih =>
    -- What follows when it is known whether the game has loaded.
    have hrest (ready : Bool) : Obeys comes rounds ⟨⟩
        (if ready then pure true else do
          Stoppable.pause poll
          s.readyLooks started limit poll rounds : Stoppable Bool) := by
      split
      · exact heedsAs_pure rfl
      · exact (obeys_pause _).bind fun _ => ih
    intro left hleft
    refine ⟨rfl, fun stop hstop => ?_⟩
    cases stop with
    | true => exact ⟨⟨fun _ => rfl, fun _ => rfl⟩, fun _ => nofun⟩
    | false =>
      -- The stop would have been told if no entries were left.
      have hpos : comes = true → 0 < left := by
        rintro rfl
        refine Nat.pos_of_ne_zero ?_
        rintro rfl
        exact nomatch hstop
      refine ⟨rfl, fun now _ => ?_⟩
      show Dialogue.Follows _ _ (ExceptT.run (if limit.nanos ≤ now - started then _ else _)) _
      split
      · exact ⟨⟨nofun, nofun⟩, fun _ _ => Nat.le_refl _⟩
      refine ⟨rfl, fun shot _ => ?_⟩
      -- The screenshot makes an entry, so a round less suffices for the rest.
      have hready (d : Talk Bool) (hd : Calm comes rounds d) :
          Dialogue.Follows (stopRules comes) (Heeded comes left (fun r => r = .error ⟨⟩) fun _ => 0)
            (do if ← d then pure true else do
              Stoppable.pause poll
              s.readyLooks started limit poll rounds : Stoppable Bool).run ⟨false, left - 1⟩ := by
        refine ((obeys_stoppable hd).bind hrest).follows (fun hc => ?_) fun _ _ _ => ?_
        · have := hpos hc
          have := hleft hc
          omega
        · exact Nat.sub_le left 1
      cases shot with
      | ok screen => exact hready _ (calm_anyReady s screen _)
      | error e => exact hready (.done false) (heeds_done id rfl)

/-- The wait until the game has loaded. -/
theorem obeys_waitForReady (s : Settings) (rounds : Nat) :
    Obeys comes rounds ⟨⟩ (s.waitForReady rounds) :=
  (obeys_stoppable (calm_seconds _)).bind fun _ => (obeys_stoppable (calm_seconds _)).bind fun _ =>
    (obeys_stoppable (calm_ask rfl)).bind fun _ => obeys_readyLooks s _ _ _ _

/-- Copying on the device never asks whether to stop. -/
theorem calm_copyPrivileged (source dest : String) :
    Calm comes rounds (copyPrivileged source dest) := by
  have hcommand (c : Command) : Calm comes rounds (Talk.command c) := calm_ask rfl
  unfold copyPrivileged
  refine (hcommand _).bind_calm fun copied => ?_
  cases copied with
  | error e => exact heeds_done id rfl
  | ok _ =>
    refine (hcommand _).bind_calm fun _ => ?_
    refine (hcommand _).bind_calm fun owner => ?_
    cases owner <;> exact (hcommand _).bind_calm fun _ => heeds_done id rfl

/-- The workflow or the claim routine. -/
theorem obeys_runOrClaim (s : Settings) (workflow : Option Workflow) (rounds : Nat) :
    Obeys comes (rounds / (workflow.elim 0 (·.steps.length) + 1)) ⟨⟩
      (s.runOrClaim workflow rounds) := by
  cases workflow with
  | none => exact (obeys_claimLooks s _ _ _).bind fun _ => heedsAs_pure rfl
  | some w =>
    refine HeedsAs.lift_bind (heeds_play ⟨w, s, rounds⟩) (fun report hr => ?_) fun report hr => ?_
    · split
      · exact heedsAs_pure rfl
      · exact heedsAs_pure rfl
      next h => exact absurd h hr
    · rw [hr]

/-- The start of the game, what runs in it, and its end. -/
theorem obeys_playGame (s : Settings) (workflow : Option Workflow) (rounds : Nat) :
    Obeys comes (rounds / (workflow.elim 0 (·.steps.length) + 1)) ⟨⟩
      (s.playGame workflow rounds) := by
  refine (obeys_pauseSeconds _).bind fun _ => ?_
  refine (obeys_order _).bind fun _ => ?_
  have hready : Obeys comes (rounds / (workflow.elim 0 (·.steps.length) + 1)) ⟨⟩
      (s.waitForReady rounds) :=
    (obeys_waitForReady s rounds).mono (Nat.div_le_self _ _) fun _ _ => Nat.le_refl 0
  refine hready.bind fun _ => ?_
  refine (obeys_runOrClaim s workflow rounds).bind fun outcome => ?_
  refine (obeys_pauseSeconds _).bind fun _ => ?_
  exact (obeys_order _).bind fun _ => heedsAs_pure rfl

/-- The cycle of an account breaks off at a stop. -/
theorem obeys_cycle (s : Settings) (account : String) (workflow : Option Workflow) (rounds : Nat) :
    Obeys comes (rounds / (workflow.elim 0 (·.steps.length) + 1)) ⟨⟩
      (s.cycle account workflow rounds) := by
  unfold cycle
  refine (obeys_order _).bind fun _ => ?_
  refine (obeys_pauseSeconds _).bind fun _ => ?_
  dsimp only
  split
  case' isTrue =>
    refine (obeys_order _).bind fun _ => ?_
    refine (obeys_pauseSeconds _).bind fun _ => ?_
  all_goals
    refine (obeys_order _).bind fun pushed => ?_
    cases pushed with
    | error e => exact heedsAs_pure rfl
    | ok _ =>
      refine obeys_checkpoint.bind fun _ => ?_
      refine (obeys_stoppable (calm_copyPrivileged _ _)).bind fun copied => ?_
      cases copied with
      | error e => exact heedsAs_pure rfl
      | ok _ => exact obeys_playGame s workflow rounds

/-- What a workflow or the claim routine leads to is not a stop, unless it breaks off. -/
theorem runOrClaim_yields (s : Settings) (workflow : Option Workflow) (rounds : Nat) :
    (s.runOrClaim workflow rounds).run.Yields fun r => ∀ a, r = .ok a → a ≠ .aborted := by
  cases workflow with
  | none =>
    refine Dialogue.yields_after (fun _ => nofun) fun _ => ?_
    rintro _ ⟨⟩
    exact nofun
  | some w =>
    refine Dialogue.yields_after (fun _ => nofun) fun report => ?_
    split
    · rintro _ ⟨⟩
      exact nofun
    · rintro _ ⟨⟩
      exact nofun
    · exact nofun

/-- The same with the start of the game and its end. -/
theorem playGame_yields (s : Settings) (workflow : Option Workflow) (rounds : Nat) :
    (s.playGame workflow rounds).run.Yields fun r => ∀ a, r = .ok a → a ≠ .aborted := by
  refine Dialogue.yields_after (fun _ => nofun) fun _ => ?_
  refine Dialogue.yields_after (fun _ => nofun) fun _ => ?_
  refine Dialogue.yields_after (fun _ => nofun) fun _ => ?_
  refine (runOrClaim_yields s workflow rounds).bind_except (fun _ => nofun) fun outcome ho => ?_
  refine Dialogue.yields_after (fun _ => nofun) fun _ => ?_
  refine Dialogue.yields_after (fun _ => nofun) fun _ => ?_
  rintro _ ⟨⟩
  exact ho

/-- A cycle that does not break off has gone well or failed. -/
theorem cycle_yields (s : Settings) (account : String) (workflow : Option Workflow)
    (rounds : Nat) :
    (s.cycle account workflow rounds).run.Yields fun r => ∀ a, r = .ok a → a ≠ .aborted := by
  unfold cycle
  refine Dialogue.yields_after (fun _ => nofun) fun _ => ?_
  refine Dialogue.yields_after (fun _ => nofun) fun _ => ?_
  dsimp only
  split
  case' isTrue =>
    refine Dialogue.yields_after (fun _ => nofun) fun _ => ?_
    refine Dialogue.yields_after (fun _ => nofun) fun _ => ?_
  all_goals
    refine Dialogue.yields_after (fun _ => nofun) fun pushed => ?_
    cases pushed with
    | error e =>
      rintro _ ⟨⟩
      exact nofun
    | ok _ =>
      refine Dialogue.yields_after (fun _ => nofun) fun _ => ?_
      refine Dialogue.yields_after (fun _ => nofun) fun copied => ?_
      cases copied with
      | error e =>
        rintro _ ⟨⟩
        exact nofun
      | ok _ => exact playGame_yields s workflow rounds

/-- The result of a cycle is `aborted` just when the cycle was told to stop. -/
theorem heeds_processAccount (s : Settings) (account : String) (workflow : Option Workflow)
    (rounds : Nat) :
    Heeds comes (rounds / (workflow.elim 0 (·.steps.length) + 1)) (· = .aborted) (fun _ => 0)
      (s.processAccount account workflow rounds) := by
  intro left hleft
  have hcycle := (obeys_cycle s account workflow rounds left hleft).and_yields
    (cycle_yields s account workflow rounds)
  refine Dialogue.follows_bind.2 (hcycle.mono ?_)
  rintro g r ⟨⟨htold, hmade⟩, hr⟩
  cases r with
  | ok result => exact ⟨htold.trans ⟨nofun, fun h => absurd h (hr _ rfl)⟩, hmade⟩
  | error e => exact ⟨htold.trans ⟨fun _ => rfl, fun _ => rfl⟩, hmade⟩

end Autoplay.Settings
