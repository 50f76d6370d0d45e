import Autoplay.Account.Cycle
import Autoplay.Proofs.Run.Journey

/-!
# The cycle of an account is orderly

The claim routine, the wait until the game has loaded and everything around the workflow check
before their commands and do not mind tolerated failures. The only commands that follow one another
after a single check are those of an export and those that put the account into place. The main
statement is `orderly_processAccount`.
-/

namespace Autoplay

/-- What the report of a workflow comes to. -/
def AccountResult.ofReport (report : Report) : Stoppable AccountResult :=
  match report.status with
  | .succeeded => pure .succeeded
  | .failed => pure (.failed report.message)
  | .aborted => throw ⟨⟩

/-- The commands that copy a file on the device with all rights, with the owner that it gets. -/
def copyCommands (source dest owner : String) : List Command :=
  [.privileged ("cp '" ++ source ++ "' '" ++ dest ++ "'"),
    .privileged ("chmod 660 '" ++ dest ++ "'"),
    .privileged ("stat -c '%U:%G' '" ++ remoteParent dest ++ "'"),
    .privileged ("chown " ++ owner ++ " '" ++ dest ++ "'")]

namespace Settings

variable {marks : Request → Prop} {sequences : List Command → Prop}

/-- The place of a template that is known without a workflow; a question that fails is a miss. -/
theorem orderly_locateBuiltin (s : Settings) (screen : Picture) (template : String) :
    Orderly marks sequences (s.locateBuiltin screen template) := by
  refine orderly_ask nofun rfl (fun hit => ?_) fun hit => ?_
  · cases hit <;> rfl
  · cases hit <;> exact orderly_done _

/-- The search for a button. -/
theorem orderly_firstButton (s : Settings) (screen : Picture) (bs : List ClaimButton) :
    Orderly marks sequences (s.firstButton screen bs) := by
  induction bs with
  | nil => exact orderly_done _
  | cons b rest ih =>
    refine (orderly_locateBuiltin _ _ _).bind fun hit => ?_
    cases hit with
    | some p => exact orderly_done _
    | none => exact ih

/-- The looks of the claim routine. -/
theorem orderly_claimLooks (s : Settings) (looks : Nat) (summary : ClaimSummary) (misses : Nat) :
    OrderlyAs marks sequences ⟨⟩ (s.claimLooks looks summary misses) := by
  induction looks generalizing summary misses with
  | zero => exact orderlyAs_pure _
  | succ looks ih =>
    unfold claimLooks
    refine orderly_checked (.of_command (fun _ => rfl) (fun shot => ?_) rfl)
    cases shot with
    | error e => exact (orderly_pauseSeconds _).bind fun _ => ih _ _
    | ok screen =>
      refine (orderly_stoppable (orderly_firstButton _ _ _)).bind fun hit => ?_
      cases hit with
      | some hit =>
        exact orderly_order (fun _ => rfl) fun _ => (orderly_pauseSeconds _).bind fun _ => ih _ _
      | none =>
        dsimp only
        split
        · exact orderlyAs_pure _
        · exact (orderly_pauseSeconds _).bind fun _ => ih _ _

/-- The search for what is on the screen when the game has loaded. -/
theorem orderly_anyReady (s : Settings) (screen : Picture) (templates : List String) :
    Orderly marks sequences (s.anyReady screen templates) := by
  induction templates with
  | nil => exact orderly_done _
  | cons t rest ih =>
    refine (orderly_locateBuiltin _ _ _).bind fun hit => ?_
    cases hit with
    | some p => exact orderly_done _
    | none => exact ih

/-- The looks whether the game has loaded. The clock is read between a check and a screenshot. -/
theorem orderly_readyLooks (s : Settings) (started : Nat) (limit poll : Duration) (rounds : Nat) :
    OrderlyAs marks sequences ⟨⟩ (s.readyLooks started limit poll rounds) := by
  induction rounds with
  | zero => exact orderly_stoppable (orderly_halt _)
  | succ rounds ih =>
    have hrest (ready : Bool) : OrderlyAs marks sequences ⟨⟩
        (if ready then pure true else do
          Stoppable.pause poll
          s.readyLooks started limit poll rounds : Stoppable Bool) := by
      split
      · exact orderlyAs_pure _
      · exact (orderly_pause _).bind fun _ => ih
    unfold readyLooks
    refine orderly_checked (cleared_clock fun now => ?_)
    dsimp only
    split
    · exact (orderlyAs_pure _).cleared
    refine .of_command (fun _ => rfl) (fun shot => ?_) rfl
    cases shot with
    | ok screen => exact (orderly_stoppable (orderly_anyReady s screen _)).bind hrest
    | error e => exact (orderlyAs_pure _).bind hrest

/-- The wait until the game has loaded. -/
theorem orderly_waitForReady (s : Settings) (rounds : Nat) :
    OrderlyAs marks sequences ⟨⟩ (s.waitForReady rounds) :=
  (orderly_stoppable (orderly_seconds _)).bind fun _ =>
    (orderly_stoppable (orderly_seconds _)).bind fun _ =>
      (orderly_stoppable orderly_clock).bind fun _ => orderly_readyLooks s _ _ _ _

/-- Copying on the device gives its commands one after the other. -/
theorem gives_copyPrivileged {source dest : String}
    (hsequences : ∀ owner, sequences (copyCommands source dest owner)) :
    Gives sequences (fun _ => True) [] (copyPrivileged source dest) := by
  -- Before the owner is known, any will do.
  have hpart (n : Nat) (owner : String) :
      ∃ whole, (copyCommands source dest owner).take n <+: whole ∧ sequences whole :=
    ⟨_, List.take_prefix _ _, hsequences owner⟩
  refine ⟨_, rfl, fun _ => rfl, fun copied => ?_⟩
  cases copied with
  | error e => exact ⟨trivial, hpart 1 ""⟩
  | ok _ =>
    refine ⟨_, rfl, fun _ => rfl, fun _ => ⟨_, rfl, fun _ => rfl, fun owner => ?_⟩⟩
    cases owner <;> exact ⟨_, rfl, fun _ => rfl, fun _ => ⟨trivial, hpart 4 _⟩⟩

section

variable (s : Settings) (workflow : Option Workflow) (rounds : Nat)
  (hmarks : ∀ q, marks q) (hexport : ∀ dest, sequences (s.game.exportCommands dest))

include hmarks hexport

/-- The workflow or the claim routine. -/
theorem orderly_runOrClaim : OrderlyAs marks sequences ⟨⟩ (s.runOrClaim workflow rounds) := by
  cases workflow with
  | none => exact (orderly_claimLooks s _ _ _).bind fun _ => orderlyAs_pure _
  | some w =>
    have hrun : (s.runOrClaim (some w) rounds).run =
        Dialogue.bind (Context.play ⟨w, s, rounds⟩) fun report =>
          (AccountResult.ofReport report).run :=
      Dialogue.run_lift_bind _ _
    constructor
    -- The run is orderly, and it is aborted only if it was told to stop.
    · rw [hrun]
      refine (orderly_run ⟨w, s, rounds⟩ hexport hmarks).bind fun report => ?_
      unfold AccountResult.ofReport
      split <;> exact orderly_done _
    · rw [hrun]
      intro t h
      obtain ⟨report, t₁, t₂, rfl, h₁, h₂⟩ := Dialogue.goes_bind_ok.1 h
      unfold AccountResult.ofReport at h₂
      split at h₂
      · exact nomatch h₂.2
      · exact nomatch h₂.2
      next haborted =>
        obtain ⟨e, he, htold⟩ := play_told h₁ haborted
        exact ⟨e, List.mem_append_left _ he, htold⟩

/-- The start of the game, what runs in it, and its end. -/
theorem orderly_playGame : OrderlyAs marks sequences ⟨⟩ (s.playGame workflow rounds) := by
  refine (orderly_pauseSeconds _).bind fun _ => ?_
  refine orderly_order (fun _ => rfl) fun _ => ?_
  refine (orderly_waitForReady s rounds).bind fun _ => ?_
  refine (orderly_runOrClaim s workflow rounds hmarks hexport).bind fun outcome => ?_
  refine (orderly_pauseSeconds _).bind fun _ => ?_
  exact orderly_order (fun _ => rfl) fun _ => orderlyAs_pure _

variable (hcopy : ∀ owner, sequences (copyCommands s.game.pushTempPath s.game.prefPath owner))

include hcopy

/-- The cycle of an account. -/
theorem orderly_cycle (account : String) :
    OrderlyAs marks sequences ⟨⟩ (s.cycle account workflow rounds) := by
  unfold cycle
  refine orderly_order (fun _ => rfl) fun _ => ?_
  refine (orderly_pauseSeconds _).bind fun _ => ?_
  dsimp only
  split
  case' isTrue =>
    refine orderly_order (fun _ => rfl) fun _ => ?_
    refine (orderly_pauseSeconds _).bind fun _ => ?_
  all_goals
    refine orderly_order (fun _ => rfl) fun pushed => ?_
    cases pushed with
    | error e => exact orderlyAs_pure _
    | ok _ =>
      refine orderly_checked (.of_gives (gives_copyPrivileged hcopy) (fun copied _ => ?_)
        (Dialogue.run_lift_bind _ _))
      cases copied with
      | error e => exact orderlyAs_pure _
      | ok _ => exact orderly_playGame s workflow rounds hmarks hexport

/-- The processing of an account. -/
theorem orderly_processAccount (account : String) :
    Orderly marks sequences (s.processAccount account workflow rounds) := by
  refine (orderly_cycle s workflow rounds hmarks hexport hcopy account).orderly.bind fun r => ?_
  cases r <;> exact orderly_done _

end

end Settings

end Autoplay
