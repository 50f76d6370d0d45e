import Autoplay.Proofs.Account.Order
import Autoplay.Proofs.Run.Chronicle
import Autoplay.Proofs.Run.Interruption

/-!
# What a stop leaves to be done

After the moment at which a stop comes, neither the run of a workflow nor the cycle of an account
gives another command, unless the command under way belongs to a sequence that is given after a
single check: the commands that put an account file into its place on the device, and those of an
export. The main statement is `only_sequences_after_stop`, and `copy_goes_on` shows a cycle in which
the copying does go on.
-/

namespace Autoplay

/-- When a stop comes, with a command or another request under way, the only commands that may still
be given are those of a sequence that is under way: in the run of a workflow an export, and in the
cycle of an account an export or the copying of the account file on the device. -/
theorem only_sequences_after_stop {σ : Type} (answer : (q : Request) → σ → q.Answer × σ) (s : σ)
    {before after : Transcript} (hstop : StopComes before after) :
    (∀ ctx : Context, ctx.play.transcript answer s = before ++ after → given after = [] ∨
      ∃ dest, UnderWay (ctx.settings.game.exportCommands dest) (given before) (given after)) ∧
    ∀ (settings : Settings) (account : String) (workflow : Option Workflow) (rounds : Nat),
      (settings.processAccount account workflow rounds).transcript answer s = before ++ after →
        given after = [] ∨
        (∃ owner, UnderWay
          (copyCommands settings.game.pushTempPath settings.game.prefPath owner)
          (given before) (given after)) ∨
        ∃ dest, UnderWay (settings.game.exportCommands dest) (given before) (given after) := by
  constructor
  · -- The only commands of a run that follow one another after a single check are an export.
    intro ctx ht
    have horderly : Orderly (fun _ => True)
        (fun whole => ∃ dest, whole = ctx.settings.game.exportCommands dest) ctx.play :=
      orderly_run ctx (fun dest => ⟨dest, rfl⟩) fun _ => trivial
    have hcautious := horderly.cautious (Dialogue.goes_transcript answer ctx.play s)
    refine (hcautious.given_after_stop ht hstop).imp_right ?_
    rintro ⟨_, ⟨dest, rfl⟩, hway⟩
    exact ⟨dest, hway⟩
  · -- In a cycle there is the copying of the account file as well.
    intro settings account workflow rounds ht
    let game := settings.game
    have horderly : Orderly (fun _ => True)
        (fun whole => (∃ owner, whole = copyCommands game.pushTempPath game.prefPath owner) ∨
          ∃ dest, whole = game.exportCommands dest)
        (settings.processAccount account workflow rounds) :=
      settings.orderly_processAccount workflow rounds (fun _ => trivial)
        (fun dest => .inr ⟨dest, rfl⟩) (fun owner => .inl ⟨owner, rfl⟩) account
    have hcautious := horderly.cautious (Dialogue.goes_transcript answer _ s)
    refine (hcautious.given_after_stop ht hstop).imp_right ?_
    rintro ⟨_, ⟨owner, rfl⟩ | ⟨dest, rfl⟩, hway⟩
    · exact .inl ⟨owner, hway⟩
    · exact .inr ⟨dest, hway⟩

/-- Surroundings in which every command goes well and nothing is found. -/
def smooth : (q : Request) → Unit → q.Answer × Unit
  | .command .screenshot, _ => (.ok (.tabulate 1 1 fun _ _ => ⟨0, 0, 0⟩), ())
  | .command (.shell _), _ => (.ok "", ())
  | .command (.privileged _), _ => (.ok "", ())
  | .command .connect, _ => (.ok (), ())
  | .command (.tap ..), _ => (.ok (), ())
  | .command (.swipe ..), _ => (.ok (), ())
  | .command (.key _), _ => (.ok (), ())
  | .command (.push ..), _ => (.ok (), ())
  | .command (.pull ..), _ => (.ok (), ())
  | .command (.forceStop _), _ => (.ok (), ())
  | .command (.startApp _), _ => (.ok (), ())
  | .find .., _ => (.ok none, ())
  | .findAll .., _ => (.ok [], ())
  | .readText .., _ => (.ok "", ())
  | .stopRequested, _ => (false, ())
  | .pause _, _ => (false, ())
  | .clock, _ => (0, ())
  | .today, _ => (⟨1970, 1, 1⟩, ())
  | .makeFolders _, _ => (.ok (), ())
  | .note _, _ => ((), ())

/-- The cycle of an account that is stopped with its fourth command, by which the account file is
copied into its place. -/
def stoppedCopy : Transcript :=
  (({} : Settings).processAccount "/accounts/a.xml" none 1).transcript
    (Chronicle.answer smooth (some 4)) ⟨(), [], []⟩

/-- The stop comes while the copying is under way. -/
theorem stoppedCopy_stopComes :
    StopComes (stoppedCopy.take 10) (stoppedCopy.drop 10) := by
  constructor
  all_goals decide +kernel

/-- What is given after the stop is a part of the copying or of an export. -/
theorem stopped_copy_under_way :
    stoppedCopy = stoppedCopy.take 10 ++ stoppedCopy.drop 10 ∧
      StopComes (stoppedCopy.take 10) (stoppedCopy.drop 10) ∧
      (given (stoppedCopy.drop 10) = [] ∨
        (∃ owner, UnderWay
          (copyCommands ({} : Settings).game.pushTempPath ({} : Settings).game.prefPath owner)
          (given (stoppedCopy.take 10)) (given (stoppedCopy.drop 10))) ∨
        ∃ dest, UnderWay (({} : Settings).game.exportCommands dest)
          (given (stoppedCopy.take 10)) (given (stoppedCopy.drop 10))) := by
  have hsplit : stoppedCopy = stoppedCopy.take 10 ++ stoppedCopy.drop 10 :=
    (List.take_append_drop 10 stoppedCopy).symm
  refine ⟨hsplit, stoppedCopy_stopComes, ?_⟩
  exact (only_sequences_after_stop _ _ stoppedCopy_stopComes).2 _ _ _ _ hsplit

/-- Some commands are given after a stop: when it comes while the account file is copied into its
place, the file still gets its rights and its owner. -/
theorem copy_goes_on :
    stoppedCopy = stoppedCopy.take 10 ++ stoppedCopy.drop 10 ∧
      StopComes (stoppedCopy.take 10) (stoppedCopy.drop 10) ∧
      (given (stoppedCopy.take 10)).getLast? = some (.privileged
        ("cp '/sdcard/_temp_lr_account.xml' " ++
          "'/data/data/com.linecorp.LGRGS/shared_prefs/_LINE_COCOS_PREF_KEY.xml'")) ∧
      given (stoppedCopy.drop 10) = [
        .privileged ("chmod 660 " ++
          "'/data/data/com.linecorp.LGRGS/shared_prefs/_LINE_COCOS_PREF_KEY.xml'"),
        .privileged "stat -c '%U:%G' '/data/data/com.linecorp.LGRGS/shared_prefs'",
        .privileged ("chown system:system " ++
          "'/data/data/com.linecorp.LGRGS/shared_prefs/_LINE_COCOS_PREF_KEY.xml'")] := by
  refine ⟨(List.take_append_drop 10 stoppedCopy).symm, stoppedCopy_stopComes, ?_, ?_⟩
  all_goals decide +kernel

end Autoplay
