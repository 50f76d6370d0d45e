import Autoplay.Account.Cycle
import Autoplay.Proofs.Dialogue.Lasting

/-!
# How the cycle of an account breaks off

The claim routine breaks off only at a wait that is too long for any clock. The wait until the game
has loaded also breaks off if its rounds are used up before the time is. Main statements:
`halts_claimRewards` and `halts_waitForReady`.
-/

namespace Autoplay

/-- A number of seconds that can be waited for: there is such a length of time, and waiting for it
ends at a moment that clocks can show. -/
def Waitable (seconds : Float) : Prop :=
  ∃ d, Duration.ofSeconds? seconds = some d ∧ d.nanos < Stoppable.longestPause

/-- There is no such length of time. -/
theorem not_waitable_of_none {x : Float} (h : Duration.ofSeconds? x = none) : ¬ Waitable x :=
  fun ⟨_, hd, _⟩ => nomatch h.symm.trans hd

/-- Waiting for it would end too late. -/
theorem not_waitable_of_long {x : Float} {d : Duration} (h : Duration.ofSeconds? x = some d)
    (hlong : Stoppable.longestPause ≤ d.nanos) : ¬ Waitable x := by
  rintro ⟨d', hd', hshort⟩
  obtain rfl : d = d' := Option.some.inj (h.symm.trans hd')
  exact Nat.not_lt.2 hlong hshort

section

variable {α β : Type} {P : Breakdown → Prop}

/-- A part that never fails, and then the rest after a result that the part can have. -/
theorem halts_lift_yields {S : β → Prop} {d : Talk β} {f : β → Stoppable α} (hd : d.Halts P)
    (hS : d.Yields S) (hf : ∀ b, S b → (f b).run.Halts P) :
    (liftM d >>= f : Stoppable α).run.Halts P := by
  have hbind : (liftM d >>= f : Stoppable α).run = d.bind fun b => (f b).run :=
    Dialogue.run_lift_bind d f
  rw [hbind]
  exact hd.bind_yields hS hf

/-- A part that never fails, and then the rest. -/
theorem halts_lift {d : Talk β} {f : β → Stoppable α} (hd : d.Halts P)
    (hf : ∀ b, (f b).run.Halts P) : (liftM d >>= f : Stoppable α).run.Halts P :=
  halts_lift_yields hd d.yields_true fun b _ => hf b

/-- A request. -/
theorem halts_ask (q : Request) : (Talk.ask q).Halts P := fun _ => trivial

/-- A check. -/
theorem halts_checkpoint : Stoppable.checkpoint.run.Halts P :=
  fun told => by cases told <;> exact trivial

/-- A command that is given unless the run is to stop. -/
theorem halts_order (c : Command) : (Stoppable.order c).run.Halts P :=
  halts_checkpoint.bind_except fun _ _ => trivial

/-- A wait. -/
theorem halts_pause {d : Duration} (h : Stoppable.longestPause ≤ d.nanos → P .overflow) :
    (Stoppable.pause d).run.Halts P := by
  unfold Stoppable.pause
  split
  next hlong => exact h hlong
  next => exact fun told => by cases told <;> exact trivial

/-- A number of seconds as a length of time. -/
theorem halts_seconds {x : Float} (h : ¬ Waitable x → P .overflow) : (Talk.seconds x).Halts P := by
  unfold Talk.seconds
  cases hx : Duration.ofSeconds? x with
  | none => exact h (not_waitable_of_none hx)
  | some d => exact trivial

/-- The length of time is the one that the number of seconds stands for. -/
theorem yields_seconds (x : Float) :
    (Talk.seconds x).Yields fun d => Duration.ofSeconds? x = some d := by
  unfold Talk.seconds
  cases Duration.ofSeconds? x with
  | none => exact trivial
  | some d => exact rfl

/-- A wait for a number of seconds. -/
theorem halts_pauseSeconds {x : Float} (h : ¬ Waitable x → P .overflow) :
    (Stoppable.pauseSeconds x).run.Halts P :=
  halts_lift_yields (halts_seconds h) (yields_seconds x) fun _ hd =>
    halts_pause fun hlong => h (not_waitable_of_long hd hlong)

end

/-! ## Waits that are too long -/

/-- A run breaks off at one of its waits because it is too long. -/
def TooLong (waits : List Float) (b : Breakdown) : Prop :=
  b = .overflow ∧ ∃ x ∈ waits, ¬ Waitable x

/-- More waits may be taken into account. -/
theorem TooLong.mono {waits waits' : List Float} {b : Breakdown} (h : TooLong waits b)
    (hwaits : waits ⊆ waits') : TooLong waits' b := by
  obtain ⟨hoverflow, x, hx, hlong⟩ := h
  exact ⟨hoverflow, x, hwaits hx, hlong⟩

section

variable {α β : Type} {P : Breakdown → Prop} {n : Nat}

/-- A part that never fails, and then the rest after a result that the part can have. -/
theorem lasts_lift_yields {S : β → Prop} {d : Talk β} {f : β → Stoppable α} (hd : d.Lasts P n)
    (hS : d.Yields S) (hf : ∀ b, S b → (f b).run.Lasts P n) :
    (liftM d >>= f : Stoppable α).run.Lasts P n := by
  have hbind : (liftM d >>= f : Stoppable α).run = d.bind fun b => (f b).run :=
    Dialogue.run_lift_bind d f
  rw [hbind]
  exact hd.bind_yields hS hf

/-- A part that never fails, and then the rest. -/
theorem lasts_lift {d : Talk β} {f : β → Stoppable α} (hd : d.Lasts P n)
    (hf : ∀ b, (f b).run.Lasts P n) : (liftM d >>= f : Stoppable α).run.Lasts P n :=
  lasts_lift_yields hd d.yields_true fun b _ => hf b

/-- A check, and then the rest, for which one answer less has to come. -/
theorem lasts_checkpoint {f : Unit → Stoppable α} (hf : (f ()).run.Lasts P (n - 1)) :
    (Stoppable.checkpoint >>= f).run.Lasts P n := by
  refine fun told => ?_
  cases told with
  | true => exact trivial
  | false => exact hf

variable {waits : List Float}

/-- A wait for a number of seconds. -/
theorem lasts_pauseSeconds {x : Float} (hx : x ∈ waits) :
    (Stoppable.pauseSeconds x).run.Lasts (TooLong waits) n :=
  (halts_pauseSeconds fun hlong => ⟨rfl, x, hx, hlong⟩).lasts n

/-- A number of seconds as a length of time. -/
theorem lasts_seconds {x : Float} (hx : x ∈ waits) : (Talk.seconds x).Lasts (TooLong waits) n :=
  (halts_seconds fun hlong => ⟨rfl, x, hx, hlong⟩).lasts n

/-- A wait for a length of time that a number of seconds stands for. -/
theorem lasts_pause {x : Float} {d : Duration} (hx : x ∈ waits)
    (hd : Duration.ofSeconds? x = some d) : (Stoppable.pause d).run.Lasts (TooLong waits) n :=
  (halts_pause fun hlong => ⟨rfl, x, hx, not_waitable_of_long hd hlong⟩).lasts n

end

namespace Settings

variable {P : Breakdown → Prop} {waits : List Float} {n : Nat} (s : Settings)

/-- A look for a template. -/
theorem halts_locateBuiltin (screen : Picture) (template : String) :
    (s.locateBuiltin screen template).Halts P :=
  fun hit => by cases hit <;> exact trivial

/-- A look for buttons. -/
theorem halts_firstButton (screen : Picture) (buttons : List ClaimButton) :
    (s.firstButton screen buttons).Halts P := by
  induction buttons with
  | nil => exact trivial
  | cons b rest ih =>
    refine (s.halts_locateBuiltin screen b.template).bind fun hit => ?_
    cases hit with
    | some p => exact trivial
    | none => exact ih

/-- A look whether the game has loaded. -/
theorem halts_anyReady (screen : Picture) (templates : List String) :
    (s.anyReady screen templates).Halts P := by
  induction templates with
  | nil => exact trivial
  | cons t rest ih =>
    refine (s.halts_locateBuiltin screen t).bind fun hit => ?_
    cases hit with
    | some p => exact trivial
    | none => exact ih

/-! ## The claim routine -/

/-- The waits of the claim routine: after a screenshot that failed, after each button, and after a
look in vain. -/
def claimWaits : List Float :=
  s.timing.screenshotRetry :: s.claim.missWait :: s.templates.claimButtons.map ClaimButton.delay

/-- The button that is found is one of those that are looked for. -/
theorem firstButton_mem (screen : Picture) (buttons : List ClaimButton) :
    (s.firstButton screen buttons).Yields fun found =>
      ∀ hit, found = some hit → hit.1 ∈ buttons := by
  induction buttons with
  | nil => exact nofun
  | cons b rest ih =>
    refine (s.locateBuiltin screen b.template).yields_true.bind fun hit _ => ?_
    cases hit with
    | some p =>
      rintro _ ⟨⟩
      exact List.mem_cons_self
    | none => exact ih.mono fun _ hmem hit hfound => List.mem_cons_of_mem b (hmem hit hfound)

/-- The looks of the claim routine break off only at a wait that is too long. -/
theorem halts_claimLooks (looks : Nat) (summary : ClaimSummary) (misses : Nat) :
    (s.claimLooks looks summary misses).run.Halts fun b =>
      b = .overflow ∧ ∃ x ∈ s.claimWaits, ¬ Waitable x := by
  have hwait {x : Float} (hx : x ∈ s.claimWaits) : (Stoppable.pauseSeconds x).run.Halts fun b =>
      b = .overflow ∧ ∃ x ∈ s.claimWaits, ¬ Waitable x :=
    halts_pauseSeconds fun hlong => ⟨rfl, x, hx, hlong⟩
  induction looks generalizing summary misses with
  | zero => exact trivial
  | succ looks ih =>
    unfold claimLooks
    refine halts_checkpoint.bind_except fun _ => ?_
    refine halts_lift (halts_ask _) fun shot => ?_
    cases shot with
    | error e => exact (hwait (by simp [claimWaits])).bind_except fun _ => ih _ _
    | ok screen =>
      refine halts_lift_yields (s.halts_firstButton screen _) (s.firstButton_mem screen _)
        fun found hfound => ?_
      cases found with
      | some hit =>
        have hdelay : hit.1.delay ∈ s.claimWaits :=
          List.mem_cons_of_mem _ (List.mem_cons_of_mem _ (List.mem_map_of_mem (hfound hit rfl)))
        exact (halts_order _).bind_except fun _ => (hwait hdelay).bind_except fun _ => ih _ _
      | none =>
        dsimp only
        split
        · exact trivial
        · exact (hwait (by simp [claimWaits])).bind_except fun _ => ih _ _

/-- The claim routine breaks off only at a wait that is too long. -/
theorem halts_claimRewards : s.claimRewards.run.Halts fun b =>
    b = .overflow ∧ ∃ x ∈ s.claimWaits, ¬ Waitable x :=
  s.halts_claimLooks _ _ _

/-! ## The wait until the game has loaded -/

/-- The wait until the game has loaded checks in each round whether to stop. -/
theorem lasts_readyLooks (started : Nat) (limit : Duration) {poll : Duration}
    (hwaits : s.timing.readyPoll ∈ waits)
    (hpoll : Duration.ofSeconds? s.timing.readyPoll = some poll) (rounds : Nat) (hn : n ≤ rounds) :
    (s.readyLooks started limit poll rounds).run.Lasts (TooLong waits) n := by
  induction rounds generalizing n with
  | zero => exact .inr ⟨rfl, Nat.eq_zero_of_le_zero hn⟩
  | succ rounds ih =>
    have hrest (ready : Bool) : (if ready then pure true else do
        Stoppable.pause poll
        s.readyLooks started limit poll rounds : Stoppable Bool).run.Lasts (TooLong waits)
          (n - 1) := by
      split
      · exact trivial
      · exact (lasts_pause hwaits hpoll).bind_except fun _ => ih (by omega)
    unfold readyLooks
    refine lasts_checkpoint ?_
    refine lasts_lift ((halts_ask _).lasts _) fun now => ?_
    dsimp only
    split
    · exact trivial
    refine lasts_lift ((halts_ask _).lasts _) fun shot => ?_
    cases shot with
    | ok screen => exact lasts_lift ((s.halts_anyReady screen _).lasts _) hrest
    | error e => exact hrest false

/-- The wait until the game has loaded. -/
theorem lasts_waitForReady (hlimit : s.timing.loadTimeout ∈ waits)
    (hpoll : s.timing.readyPoll ∈ waits) {rounds : Nat} (hn : n ≤ rounds) :
    (s.waitForReady rounds).run.Lasts (TooLong waits) n := by
  refine lasts_lift (lasts_seconds hlimit) fun limit => ?_
  refine lasts_lift_yields (lasts_seconds hpoll) (yields_seconds _) fun poll hd => ?_
  exact lasts_lift ((halts_ask .clock).lasts n) fun started =>
    s.lasts_readyLooks started limit hpoll hd rounds hn

/-- The wait until the game has loaded breaks off if its rounds are used up before the time is, or
if one of its lengths of time is too long. -/
theorem halts_waitForReady (rounds : Nat) : (s.waitForReady rounds).run.Halts fun b =>
    b = .outOfRounds ∨
      b = .overflow ∧ (¬ Waitable s.timing.loadTimeout ∨ ¬ Waitable s.timing.readyPoll) := by
  have hlasts : (s.waitForReady rounds).run.Lasts
      (TooLong [s.timing.loadTimeout, s.timing.readyPoll]) rounds :=
    s.lasts_waitForReady List.mem_cons_self (List.mem_cons_of_mem _ List.mem_cons_self)
      (Nat.le_refl rounds)
  refine hlasts.halts.mono fun b hb => hb.imp_right fun ⟨hoverflow, hlong⟩ => ⟨hoverflow, ?_⟩
  simpa only [List.mem_cons, List.not_mem_nil, or_false, exists_eq_or_imp, exists_eq_left]
    using hlong

end Settings

end Autoplay
