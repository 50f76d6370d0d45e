import Autoplay.Proofs.Run.Journey

/-!
# Which steps fail a run

A step never fails because of the device or an export, and a run fails only with its last step: a
search that may not be passed over and found nothing up to one of its limits, or a wait for a colour
whose time was up or whose place is not on the screen. The main statement is `failed_by_last_step`.
-/

namespace Autoplay

/-- The failures of an action that fail a run, with the reason in what was asked and answered while
it ran. -/
inductive Action.Fails : Action → Transcript → StepError → Prop where
  /-- A single search found nothing. -/
  | imageMatch {s : TemplateSearch} {talk : Transcript} (template : String) (attempts : UInt32)
    (waited : Duration) (hskip : s.skipIfNotFound = false) (hgaveUp : s.GaveUp talk) :
    Fails (.imageMatch s) talk (.templateNotFound template attempts waited)
  /-- A search for all hits found nothing. -/
  | findAllClick {s : TemplateSearch} {talk : Transcript} (template : String) (attempts : UInt32)
    (waited : Duration) (hskip : s.skipIfNotFound = false) (hgaveUp : s.GaveUp talk) :
    Fails (.findAllClick s) talk (.templateNotFound template attempts waited)
  /-- A wait for a colour was too long. -/
  | timedOut {s : ColorWait} {talk : Transcript} (x y : Int32) (waited : Duration)
    (hchannels : s.expectedColor.length = 3) (htimedOut : s.TimedOut talk) :
    Fails (.waitForColor s) talk (.colorTimeout x y waited)
  /-- A colour was waited for off the screen. -/
  | offScreen {s : ColorWait} {talk : Transcript} (x y : Int32) (width height : Nat)
    (hchannels : s.expectedColor.length = 3) (hoffScreen : s.OffScreen talk) :
    Fails (.waitForColor s) talk (.outOfBounds x y width height)

/-- A colour that can be waited for has three channels. -/
theorem length_of_expectedBgr {s : ColorWait} {bgr : UInt8 × UInt8 × UInt8}
    (h : s.expectedBgr = some bgr) : s.expectedColor.length = 3 := by
  unfold ColorWait.expectedBgr at h
  split at h
  next heq => rw [heq]; rfl
  next => exact nomatch h

/-- An action that fails but was not stopped and makes sense fails in one of those ways. -/
theorem fails_of_canEnd {a : Action} {talk : Transcript} {e : StepError}
    (h : a.CanEnd talk (.error e)) (hstop : e ≠ .aborted)
    (hsense : ∀ reason, e ≠ .misconfigured reason) : a.Fails talk e := by
  match e, h with
  | .templateNotFound .., ⟨s, ha, hskip, hgaveUp⟩ =>
    rcases ha with rfl | rfl
    · exact .imageMatch _ _ _ hskip hgaveUp
    · exact .findAllClick _ _ _ hskip hgaveUp
  | .colorTimeout .., ⟨s, ha, htimedOut⟩ =>
    subst ha
    obtain ⟨bgr, _, _, _, _, hbgr, _⟩ := id htimedOut
    exact .timedOut _ _ _ (length_of_expectedBgr hbgr) htimedOut
  | .outOfBounds .., ⟨s, ha, hbgr, hoffScreen⟩ =>
    subst ha
    obtain ⟨bgr, hbgr⟩ := Option.isSome_iff_exists.1 hbgr
    exact .offScreen _ _ _ _ (length_of_expectedBgr hbgr) hoffScreen
  | .misconfigured reason, _ => exact absurd rfl (hsense reason)
  | .aborted, _ => exact absurd rfl hstop

/-- No action fails because of the device or an export, whatever is answered. And if a run fails,
the message names the last step that began on its own, and that step is a search that may not be
passed over and found nothing up to one of its limits, or a wait for a colour with three channels
whose time was up or whose place is not on the screen. -/
theorem failed_by_last_step {σ : Type} (ctx : Context)
    (answer : (q : Request) → σ → q.Answer × σ) (s : σ) :
    (∀ (a : Action) (index : Nat) (e : StepError),
      ((a.play ctx index).run.run answer s).1 = .ok (.error e) →
        (∀ reason, e ≠ .deviceUnreachable reason) ∧ ∀ reason, e ≠ .export reason) ∧
    ∀ report, (ctx.play.run answer s).1 = .ok report → report.status = .failed →
      ∃ before index talk step e,
        ctx.play.transcript answer s = before ++ ⟨.note (.began index), ()⟩ :: talk ∧
        begun talk = [] ∧ ctx.workflow.steps[index]? = some step ∧
        report.message =
          "Error at step " ++ Decimal.digits (index + 1) ++ ": " ++ e.message ∧
        step.action.Fails talk e := by
  constructor
  · -- An action can end with neither of these failures.
    intro a index e he
    have hgoes := Dialogue.goes_transcript answer (a.play ctx index).run s
    rw [he] at hgoes
    have hends := action_ends ctx index a _ _ hgoes
    constructor
    all_goals
      rintro reason rfl
      exact hends
  · intro report hreport hfailed
    obtain ⟨opening, legs, hjourney⟩ :=
      playFrom_journey ctx ctx.rounds 0 0 (Dialogue.goes_transcript answer ctx.play s)
    -- Of the ways in which a run ends only the failure of its last step is reported as one.
    obtain ⟨-, hends⟩ := hjourney.report report hreport
    cases hends with
    | completed hstatus => rw [hstatus] at hfailed; exact nomatch hfailed
    | stopped hstatus => rw [hstatus] at hfailed; exact nomatch hfailed
    | aborted hstatus => rw [hstatus] at hfailed; exact nomatch hfailed
    | @failed _ l hlast hchecks e houtcome hstop hsense hmessage =>
      obtain ⟨earlier, rfl⟩ := List.getLast?_eq_some_iff.1 hlast
      have hplayed := hjourney.played l (List.mem_append_right _ (List.mem_singleton.2 rfl))
      obtain ⟨step, hstep, hgoes⟩ := hplayed.goes
      rw [houtcome] at hgoes
      refine ⟨opening ++ earlier.flatMap Leg.transcript, l.index, l.talk, step, e, ?_,
        hplayed.begun_talk, hstep, hmessage,
        fails_of_canEnd (action_ends ctx l.index step.action _ _ hgoes) hstop hsense⟩
      rw [hjourney.transcript, List.flatMap_append, List.flatMap_singleton, Leg.transcript, hchecks,
        List.append_nil, List.append_assoc]

/-- Surroundings in which every command fails, no question about a screen has an answer, nothing is
to stop and no time passes. -/
def unresponsive : (q : Request) → Unit → q.Answer × Unit
  | .command _, _ => (.error (.notFound "serial"), ())
  | .find .., _ => (.error "unreadable", ())
  | .findAll .., _ => (.error "unreadable", ())
  | .readText .., _ => (.error "unreadable", ())
  | .stopRequested, _ => (false, ())
  | .pause _, _ => (false, ())
  | .clock, _ => (0, ())
  | .today, _ => (⟨1970, 1, 1⟩, ())
  | .makeFolders _, _ => (.error .notFound, ())
  | .note _, _ => ((), ())

/-- A workflow that waits and then looks once for a template. -/
def oneLook : Context where
  workflow.steps := [{ action := .wait { millis := 5 } },
    { action := .imageMatch { templatePath := "home.png", maxRetries := some 1 } }]
  settings := {}
  rounds := 5

/-- Without a screen the look finds nothing, and the run fails with its second step. -/
theorem one_look_in_vain :
    (oneLook.play.run unresponsive ()).1 = .ok ⟨.failed,
      "Error at step 2: template not found: home.png after 1 attempts (0.0ns)", 2⟩ ∧
    ∃ before index talk step e,
      oneLook.play.transcript unresponsive () = before ++ ⟨.note (.began index), ()⟩ :: talk ∧
      begun talk = [] ∧ oneLook.workflow.steps[index]? = some step ∧
      "Error at step 2: template not found: home.png after 1 attempts (0.0ns)" =
        "Error at step " ++ Decimal.digits (index + 1) ++ ": " ++ e.message ∧
      step.action.Fails talk e := by
  have hrun : (oneLook.play.run unresponsive ()).1 = .ok ⟨.failed,
      "Error at step 2: template not found: home.png after 1 attempts (0.0ns)", 2⟩ := by
    have hreport : (oneLook.play.run unresponsive ()).1.toOption = some ⟨.failed,
        "Error at step 2: template not found: home.png after 1 attempts (0.0ns)", 2⟩ := by
      decide +kernel
    cases h : (oneLook.play.run unresponsive ()).1 with
    | ok report => rw [h] at hreport; exact congrArg Except.ok (Option.some.inj hreport)
    | error b => rw [h] at hreport; exact nomatch hreport
  exact ⟨hrun, (failed_by_last_step oneLook unresponsive ()).2 _ hrun rfl⟩

end Autoplay
