import Autoplay.Proofs.Account.Breakdown
import Autoplay.Proofs.Run.Lasting
import Autoplay.Proofs.Run.Lockstep
import Autoplay.Proofs.Run.Outcome

/-!
# Two loops of taps

A step that taps a template for as long as it turns up does what the claim routine does with a
single button: given the same template, threshold and limits, both go in lockstep. They may wait for
different lengths of time. The main statement is `click_loops_agree`.
-/

namespace Autoplay

variable {α β γ δ : Type} {free : Prop}

/-! ## Steps and routines -/

/-- A step and a routine agree: both have a result, or both are stopped. -/
def Agree (R : α → β → Prop) : Except StepError α → Except Stopped β → Prop
  | .ok a, .ok b => R a b
  | .error .aborted, .error _ => True
  | _, _ => False

/-- Joined parts of a step and a routine are in lockstep when the parts are. -/
theorem Lockstep.bind_agree {R : α → β → Prop} {S : γ → δ → Prop} {x : Play α} {y : Stoppable β}
    {f : α → Play γ} {g : β → Stoppable δ} (h : Lockstep free (Agree R) x.run y.run)
    (hf : ∀ a b, R a b → Lockstep free (Agree S) (f a).run (g b).run) :
    Lockstep free (Agree S) (x >>= f).run (y >>= g).run := by
  rw [Dialogue.run_bind_except, Dialogue.run_bind_except]
  refine h.bind fun o o' ho => ?_
  match o, o', ho with
  | .ok a, .ok b, hab => exact hf a b hab
  | .error .aborted, .error _, _ => exact .done trivial

/-- The same for parts that never fail, and then the rest. -/
theorem Lockstep.bind_talk {R : α → β → Prop} {S : γ → δ → Prop} {d : Talk α} {e : Talk β}
    {f : α → Play γ} {g : β → Stoppable δ} (h : Lockstep free R d e)
    (hf : ∀ a b, R a b → Lockstep free (Agree S) (f a).run (g b).run) :
    Lockstep free (Agree S) (liftM d >>= f : Play γ).run (liftM e >>= g : Stoppable δ).run := by
  have hright : (liftM e >>= g : Stoppable δ).run = e.bind fun b => (g b).run :=
    Dialogue.run_lift_bind e g
  rw [run_play_bind, hright]
  exact h.bind hf

/-- Parts that break off at a stop are in lockstep, too, if the first one is a part of a step. -/
theorem Lockstep.inPlay {x y : Stoppable α} (h : Lockstep free Eq x.run y.run) :
    Lockstep free (Agree Eq) (liftM x : Play α).run y.run := by
  have hends (o o' : Except Stopped α) (ho : o = o') : Lockstep free (Agree Eq)
      (.done (o.mapError fun _ => .aborted) : Talk (Except StepError α)) (.done o') := by
    subst ho
    cases o with
    | ok a => exact .done rfl
    | error e => exact .done trivial
  have hbind := h.bind hends
  rw [Dialogue.bind_done] at hbind
  exact hbind

/-- A wait for a number of seconds breaks off at once, or asks for the wait. -/
theorem pauseSeconds_run (x : Float) : (Stoppable.pauseSeconds x).run = .halt .overflow ∨
    ∃ d, (Stoppable.pauseSeconds x).run =
      Dialogue.ask (.pause d) fun told => .done (if told then .error ⟨⟩ else .ok ()) := by
  unfold Stoppable.pauseSeconds Talk.seconds
  cases hx : Duration.ofSeconds? x with
  | none => exact .inl rfl
  | some d =>
    by_cases hlong : Stoppable.longestPause ≤ d.nanos
    · refine .inl ?_
      show (Stoppable.pause d).run = _
      unfold Stoppable.pause
      rw [if_pos hlong]
      rfl
    · refine .inr ⟨d, ?_⟩
      show (Stoppable.pause d).run = _
      unfold Stoppable.pause
      rw [if_neg hlong]
      refine congrArg (Dialogue.ask (Request.pause d)) (funext fun told => ?_)
      cases told <;> rfl

/-- Waits of different lengths are in free lockstep. -/
theorem lockstep_pauseSeconds (hfree : free) (x y : Float) :
    Lockstep free Eq (Stoppable.pauseSeconds x).run (Stoppable.pauseSeconds y).run := by
  rcases pauseSeconds_run x with hx | ⟨d, hx⟩ <;> rcases pauseSeconds_run y with hy | ⟨d', hy⟩ <;>
    rw [hx, hy]
  · exact .halt .overflow
  · exact .left hfree _ _
  · exact .right hfree _ _
  · exact .pause hfree d d' fun told => .done rfl

/-! ## The two loops -/

namespace Settings

variable (s : Settings) (b : ClaimButton) (clickDelay retryDelay : Float)

/-- The settings with a single button for the claim routine. -/
def withButton : Settings := { s with templates := { s.templates with claimButtons := [b] } }

/-- A step that taps the template of a button, within the limits of the claim routine and with waits
of its own. -/
def clicking : LoopClick where
  templatePath := b.template
  threshold := s.templates.builtinThreshold
  maxIterations := s.claim.maxIterations
  notFoundThreshold := s.claim.missLimit
  clickDelay := clickDelay
  retryDelay := retryDelay

end Settings

/-- A command that is given unless the run is to stop, and then the rest. -/
theorem order_bind (c : Command) (f : Except DeviceError c.Reply → Stoppable α) :
    Stoppable.order c >>= f = Stoppable.checkpoint >>= fun _ => liftM (Talk.command c) >>= f :=
  bind_assoc _ _ _

/-- A screenshot of a step, which may fail, is in lockstep with one of a routine. -/
theorem lockstep_screenshot : Lockstep free
    (Agree fun shot reply => shot = reply.mapError .deviceUnreachable)
    (Play.attempt Play.capture).run (Stoppable.order .screenshot).run := by
  refine .ask .stopRequested fun told => ?_
  cases told with
  | true => exact .done trivial
  | false =>
    refine .ask (.command .screenshot) fun shot => ?_
    cases shot <;> exact .done rfl

section

variable {s : Settings} {b : ClaimButton} {clickDelay retryDelay : Float}

/-- The question for the template of a step is in lockstep with that for the only button. -/
theorem lockstep_locate (w : Workflow) (rounds : Nat) (screen : Picture) : Lockstep free
    (fun hit found => found = hit.map fun p => (b, p))
    (Context.locate ⟨w, s.withButton b, rounds⟩ screen b.template s.templates.builtinThreshold)
    ((s.withButton b).firstButton screen [b]) := by
  refine .ask _ fun found => ?_
  match found with
  | .ok (some p) => exact .done rfl
  | .ok none => exact .done rfl
  | .error e => exact .done rfl

/-- The looks are in lockstep when the waits after hits and after misses are. -/
theorem lockstep_looks (w : Workflow) (rounds : Nat)
    (hclick : Lockstep free Eq (Stoppable.pauseSeconds clickDelay).run
      (Stoppable.pauseSeconds b.delay).run)
    (hretry : Lockstep free Eq (Stoppable.pauseSeconds retryDelay).run
      (Stoppable.pauseSeconds s.claim.missWait).run)
    (looks misses : Nat) (summary : ClaimSummary) : Lockstep free (Agree fun _ _ => True)
      ((s.clicking b clickDelay retryDelay).look ⟨w, s.withButton b, rounds⟩ looks misses).run
      ((s.withButton b).claimLooks looks summary misses).run := by
  -- The routine counts looks and hits as well, which has no influence on what it asks.
  induction looks generalizing misses summary with
  | zero => exact .done trivial
  | succ looks ih =>
    unfold LoopClick.look Settings.claimLooks
    dsimp only
    -- The routine checks and then takes its screenshot, which is one order.
    rw [← order_bind]
    refine lockstep_screenshot.bind_agree fun shot reply hshot => ?_
    subst hshot
    cases reply with
    | error e => exact (Lockstep.refl _).inPlay.bind_agree fun _ _ _ => ih _ _
    | ok screen =>
      refine (lockstep_locate w rounds screen).bind_talk fun hit found hfound => ?_
      subst hfound
      cases hit with
      | some p =>
        refine (Lockstep.refl _).inPlay.bind_agree fun _ _ _ => ?_
        exact hclick.inPlay.bind_agree fun _ _ _ => ih _ _
      | none =>
        show Lockstep free _ (ExceptT.run (if s.claim.missLimit.toNat ≤ misses + 1 then _ else _))
          (ExceptT.run (if s.claim.missLimit.toNat ≤ misses + 1 then _ else _))
        by_cases hlimit : s.claim.missLimit.toNat ≤ misses + 1
        · rw [if_pos hlimit, if_pos hlimit]
          exact .done trivial
        · rw [if_neg hlimit, if_neg hlimit]
          exact hretry.inPlay.bind_agree fun _ _ _ => ih _ _

/-- So are the step and the routine, and the next step follows when the routine returns. -/
theorem lockstep_loops (w : Workflow) (rounds index : Nat)
    (hclick : Lockstep free Eq (Stoppable.pauseSeconds clickDelay).run
      (Stoppable.pauseSeconds b.delay).run)
    (hretry : Lockstep free Eq (Stoppable.pauseSeconds retryDelay).run
      (Stoppable.pauseSeconds s.claim.missWait).run) :
    Lockstep free (Agree fun flow _ => flow = .next)
      ((Action.loopClick (s.clicking b clickDelay retryDelay)).play ⟨w, s.withButton b, rounds⟩
        index).run (s.withButton b).claimRewards.run := by
  rw [← bind_pure (s.withButton b).claimRewards]
  exact (lockstep_looks w rounds hclick hretry _ _ _).bind_agree fun _ _ _ => .done rfl

end

/-- How a step and a routine can come to the same. -/
inductive SameEnd : Except Breakdown (Except StepError Flow) →
    Except Breakdown (Except Stopped ClaimSummary) → Prop where
  /-- The next step follows, and the routine returns. -/
  | returned (summary : ClaimSummary) : SameEnd (.ok (.ok .next)) (.ok (.ok summary))
  /-- Both are stopped. -/
  | stopped : SameEnd (.ok (.error .aborted)) (.ok (.error ⟨⟩))

/-- They do if they agree and the next step follows. -/
theorem sameEnd_of_agree {o : Except StepError Flow} {o' : Except Stopped ClaimSummary}
    (h : Agree (fun flow _ => flow = .next) o o') : SameEnd (.ok o) (.ok o') := by
  match o, o', h with
  | .ok _, .ok summary, rfl => exact .returned summary
  | .error .aborted, .error _, _ => exact .stopped

/-- A step that taps a template for as long as it turns up, and the claim routine with that template
as its only button, the same threshold and the same limits. Whatever the surroundings answer and
whenever the stop comes, both make the same entries in the log, and either the next step follows
and the routine returns, or both are stopped. The two may wait for different lengths of time, as
long as that makes no difference to the surroundings; one that has a wait too long for any clock may
break off before the other. With equal waits both are the same in any surroundings. -/
theorem click_loops_agree {σ : Type} (reply : (q : Request) → σ → q.Answer × σ) (c : Chronicle σ)
    (s : Settings) (w : Workflow) (rounds index : Nat) (b : ClaimButton)
    (clickDelay retryDelay : Float) (stop : Option Nat) :
    let ctx : Context := ⟨w, s.withButton b, rounds⟩
    let routine := (s.withButton b).claimRewards.run
    let loop := s.clicking b clickDelay retryDelay
    let (o, after) := ((Action.loopClick loop).play ctx index).run.run
      (Chronicle.answer (unhurried reply) stop) c
    let (o', after') := routine.run (Chronicle.answer (unhurried reply) stop) c
    ((∃ e, o = .error e ∧ TooLong (loop.waits s.timing) e) ∧ after.log <+: after'.log ∨
        (∃ e, o' = .error e ∧ TooLong (s.withButton b).claimWaits e) ∧ after'.log <+: after.log ∨
        SameEnd o o' ∧ after.log = after'.log) ∧
      let twin := ((Action.loopClick (s.clicking b b.delay s.claim.missWait)).play ctx index).run
      ∀ {τ : Type} (answer : (q : Request) → τ → q.Answer × τ) (around : τ),
        twin.transcript answer around = routine.transcript answer around ∧
          ((∃ e, (twin.run answer around).1 = .error e ∧
              (routine.run answer around).1 = .error e) ∨
            SameEnd (twin.run answer around).1 (routine.run answer around).1) := by
  intro ctx routine loop
  have hbroken (n : Nat) : ((Action.loopClick loop).play ctx index).run.Lasts
      (TooLong (loop.waits s.timing)) n :=
    (lasts_loopClick_look loop ctx (fun _ hx => hx) _ _).bind_except fun _ => trivial
  refine ⟨?_, fun answer around => ?_⟩
  · have hloops : Lockstep True _ _ _ := lockstep_loops w rounds index
      (lockstep_pauseSeconds trivial clickDelay b.delay)
      (lockstep_pauseSeconds trivial retryDelay s.claim.missWait)
    let answer := Chronicle.answer (unhurried reply) stop
    rcases hloops.run_free reply stop c with
      ⟨⟨e, he⟩, hlog⟩ | ⟨⟨e, he⟩, hlog⟩ | ⟨a, a', ha, ha', hagree, hsame⟩
    · have hgoes := Dialogue.goes_transcript answer ((Action.loopClick loop).play ctx index).run c
      rw [he] at hgoes
      -- It would go on for longer than it did if nothing but its rounds ended it.
      refine .inl ⟨⟨e, he, ?_⟩, hlog⟩
      exact ((hbroken _).of_goes hgoes).resolve_right fun ⟨_, hle⟩ => Nat.not_succ_le_self _ hle
    · have hgoes := Dialogue.goes_transcript answer routine c
      rw [he] at hgoes
      exact .inr (.inl ⟨⟨e, he, (s.withButton b).halts_claimRewards.of_goes hgoes⟩, hlog⟩)
    · refine .inr (.inr ⟨?_, congrArg Chronicle.log hsame⟩)
      rw [ha, ha']
      exact sameEnd_of_agree hagree
  · have htwins : Lockstep False _ _ _ := lockstep_loops w rounds index
      (Lockstep.refl (Stoppable.pauseSeconds b.delay).run)
      (Lockstep.refl (Stoppable.pauseSeconds s.claim.missWait).run)
    obtain ⟨htranscript, -, hends⟩ := htwins.run_same answer around
    refine ⟨htranscript, hends.imp_right ?_⟩
    rintro ⟨a, a', ha, ha', hagree⟩
    rw [ha, ha']
    exact sameEnd_of_agree hagree

end Autoplay
