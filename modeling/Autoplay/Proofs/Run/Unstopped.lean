import Autoplay.Proofs.Account.Phases

/-!
# Parts of steps that are never told to stop

What the parts of a step ask and are answered when nothing tells the run to stop: a check is passed,
a command is given, a screenshot is taken or fails, and a wait comes to its end unless it is too
long for any clock. Each statement gives the part's exchanges and leaves the rest of the step. What
does not depend on waits and checks is stated of the other exchanges (`asked`); the main statement
about several commands is `tapAll_goes`.
-/

namespace Autoplay

variable {α β : Type} {t : Transcript}

/-- What is asked and answered, but for checks and waits. -/
def asked (t : Transcript) : Transcript := t.filter fun x => !x.1.asksStop

/-- One after the other. -/
theorem asked_append (t u : Transcript) : asked (t ++ u) = asked t ++ asked u :=
  List.filter_append _ _

/-- After a part that never fails the rest follows, unless that part breaks off. -/
theorem goes_talk {d : Talk β} {f : β → Play α} {r : Except Breakdown (Except StepError α)}
    (h : (liftM d >>= f : Play α).run.Goes t r) :
    (∃ b t₁ u, t = t₁ ++ u ∧ d.Goes t₁ (.ok b) ∧ (f b).run.Goes u r) ∨
      ∃ b, r = .error b ∧ d.Goes t (.error b) := by
  rw [run_play_bind] at h
  exact Dialogue.goes_bind.1 h

/-- After a request the rest follows. -/
theorem goes_ask {q : Request} {f : q.Answer → Play α} {r : Except Breakdown (Except StepError α)}
    (h : (liftM (Talk.ask q) >>= f : Play α).run.Goes t r) :
    ∃ a u, t = ⟨q, a⟩ :: u ∧ (f a).run.Goes u r := h

/-- A number of seconds is a length of time, or there is no such length. -/
theorem goes_seconds_bind {x : Float} {f : Duration → Play α}
    {r : Except Breakdown (Except StepError α)}
    (h : (liftM (Talk.seconds x) >>= f : Play α).run.Goes t r) :
    (Duration.ofSeconds? x = none ∧ t = [] ∧ r = .error .overflow) ∨
      ∃ d, Duration.ofSeconds? x = some d ∧ (f d).run.Goes t r := by
  unfold Talk.seconds at h
  cases hx : Duration.ofSeconds? x with
  | none =>
    rw [hx] at h
    obtain ⟨rfl, rfl⟩ := h
    exact .inl ⟨rfl, rfl, rfl⟩
  | some d =>
    rw [hx] at h
    exact .inr ⟨d, rfl, h⟩

namespace Unstopped

variable {r : Except Breakdown (Except StepError α)}

/-- After a check that was passed the rest follows. -/
theorem play_checkpoint {f : Unit → Play α} (ht : Unstopped t)
    (h : (liftM Stoppable.checkpoint >>= f : Play α).run.Goes t r) :
    ∃ u, Unstopped u ∧ t = ⟨.stopRequested, false⟩ :: u ∧ (f ()).run.Goes u r := by
  obtain ⟨told, u, rfl, h⟩ := h
  obtain ⟨htold, hu⟩ := List.forall_mem_cons.1 ht
  obtain rfl : told = false := htold
  exact ⟨u, hu, rfl, h⟩

/-- After a command the rest follows. -/
theorem play_order {c : Command} {f : Except DeviceError c.Reply → Play α} (ht : Unstopped t)
    (h : (liftM (Stoppable.order c) >>= f : Play α).run.Goes t r) :
    ∃ a u, Unstopped u ∧ t = ⟨.stopRequested, false⟩ :: ⟨.command c, a⟩ :: u ∧
      (f a).run.Goes u r := by
  obtain ⟨told, u, rfl, h⟩ := h
  obtain ⟨htold, hu⟩ := List.forall_mem_cons.1 ht
  obtain rfl : told = false := htold
  obtain ⟨a, u, rfl, h⟩ := h
  exact ⟨a, u, (List.forall_mem_cons.1 hu).2, rfl, h⟩

/-- After a screenshot, or one that failed, the rest follows. -/
theorem play_capture {f : Except StepError Picture → Play α} (ht : Unstopped t)
    (h : (Play.attempt Play.capture >>= f).run.Goes t r) :
    ∃ shot u, Unstopped u ∧
      t = ⟨.stopRequested, false⟩ :: ⟨.command .screenshot, shot⟩ :: u ∧
      (f (shot.mapError .deviceUnreachable)).run.Goes u r := by
  obtain ⟨told, u, rfl, h⟩ := h
  obtain ⟨htold, hu⟩ := List.forall_mem_cons.1 ht
  obtain rfl : told = false := htold
  obtain ⟨shot, u, rfl, h⟩ := h
  refine ⟨shot, u, (List.forall_mem_cons.1 hu).2, rfl, ?_⟩
  cases shot <;> exact h

/-- After what may fail the rest follows, and it did not fail by a stop. -/
theorem play_attempt {marks : Request → Prop} {sequences : List Command → Prop} {p : Play β}
    {f : Except StepError β → Play α} (ht : Unstopped t)
    (hp : OrderlyAs marks sequences .aborted p) (h : (Play.attempt p >>= f).run.Goes t r) :
    (∃ o t₁ u, Unstopped u ∧ t = t₁ ++ u ∧ o ≠ .error .aborted ∧ p.run.Goes t₁ (.ok o) ∧
      (f o).run.Goes u r) ∨ ∃ b, r = .error b ∧ p.run.Goes t (.error b) := by
  -- A part that is stopped has been told so.
  have hgoing {u : Transcript} (hu : Unstopped u) {o : Except StepError β}
      (hgoes : p.run.Goes u (.ok o)) : o ≠ .error .aborted := by
    rintro rfl
    obtain ⟨x, hx, htold⟩ := hp.told hgoes
    exact Bool.false_ne_true ((hu x hx).symm.trans htold)
  rcases (Dialogue.goes_bind_run (x := Play.attempt p)).1 h with
    ⟨o, t₁, u, rfl, h₁, h₂⟩ | ⟨e, rfl, h₁⟩ | ⟨b, rfl, h₁⟩
  · obtain ⟨ht₁, hu⟩ := ht.of_append
    rcases goes_attempt h₁ with ⟨o', hgoes, ho | ⟨-, ho⟩⟩ | ⟨b, -, ho⟩
    · cases ho
      exact .inl ⟨o, t₁, u, hu, rfl, hgoing ht₁ hgoes, hgoes, h₂⟩
    all_goals exact nomatch ho
  · rcases goes_attempt h₁ with ⟨o', hgoes, ho | ⟨rfl, -⟩⟩ | ⟨b, -, ho⟩
    · exact nomatch ho
    · exact absurd rfl (hgoing ht hgoes)
    · exact nomatch ho
  · rcases goes_attempt h₁ with ⟨o', -, ho | ⟨-, ho⟩⟩ | ⟨b', hgoes, ho⟩
    · exact nomatch ho
    · exact nomatch ho
    · cases ho
      exact .inr ⟨b, rfl, hgoes⟩

/-- After a wait the rest follows, unless it cannot be waited for so long. -/
theorem play_pause {d : Duration} {f : Unit → Play α} (ht : Unstopped t)
    (h : (liftM (Stoppable.pause d) >>= f : Play α).run.Goes t r) :
    (Stoppable.longestPause ≤ d.nanos ∧ t = [] ∧ r = .error .overflow) ∨
      ∃ u, Unstopped u ∧ t = ⟨.pause d, false⟩ :: u ∧ (f ()).run.Goes u r := by
  unfold Stoppable.pause at h
  split at h
  next hlong =>
    obtain ⟨rfl, rfl⟩ := h
    exact .inl ⟨hlong, rfl, rfl⟩
  next =>
    obtain ⟨told, u, rfl, h⟩ := h
    obtain ⟨htold, hu⟩ := List.forall_mem_cons.1 ht
    obtain rfl : told = false := htold
    exact .inr ⟨u, hu, rfl, h⟩

/-- After a wait for a number of seconds the rest follows, unless it cannot be waited for so
long. -/
theorem play_pauseSeconds {x : Float} {f : Unit → Play α} (ht : Unstopped t)
    (h : (liftM (Stoppable.pauseSeconds x) >>= f : Play α).run.Goes t r) :
    (¬ Waitable x ∧ t = [] ∧ r = .error .overflow) ∨
      ∃ d u, Unstopped u ∧ t = ⟨.pause d, false⟩ :: u ∧ (f ()).run.Goes u r := by
  unfold Stoppable.pauseSeconds Talk.seconds at h
  cases hx : Duration.ofSeconds? x with
  | none =>
    rw [hx] at h
    obtain ⟨rfl, rfl⟩ := h
    exact .inl ⟨not_waitable_of_none hx, rfl, rfl⟩
  | some d =>
    rw [hx] at h
    have hpause : (liftM (Stoppable.pause d) >>= f : Play α).run.Goes t r := h
    exact (ht.play_pause hpause).imp
      (fun ⟨hlong, hnil, hr⟩ => ⟨not_waitable_of_long hx hlong, hnil, hr⟩) fun h => ⟨d, h⟩

end Unstopped

/-- Taps are given one after the other, all of them unless a wait between or after them is too
long. -/
theorem tapAll_goes {ctx : Context} {gap : Bool} {ps : List Point}
    {r : Except Breakdown (Except StepError Unit)} (ht : Unstopped t)
    (h : (tapAll ctx gap ps).run.Goes t r) :
    (r = .ok (.ok ()) ∧ (asked t).map Sigma.fst = ps.map fun p => .command (.tap p.x p.y)) ∨
      (r = .error .overflow ∧
        (¬ Waitable ctx.settings.timing.clickSettle ∨ ¬ Waitable ctx.settings.timing.findAllGap) ∧
        (asked t).map Sigma.fst <+: ps.map fun p => .command (.tap p.x p.y)) := by
  induction ps generalizing gap t with
  | nil =>
    have hwait : (liftM (Stoppable.pauseSeconds ctx.settings.timing.clickSettle) >>=
        fun _ => pure () : Play Unit).run.Goes t r := by
      rw [bind_pure]
      exact h
    rcases ht.play_pauseSeconds hwait with ⟨hlong, rfl, rfl⟩ | ⟨d, u, -, rfl, rfl, rfl⟩
    · exact .inr ⟨rfl, .inl hlong, List.prefix_rfl⟩
    · exact .inl ⟨rfl, rfl⟩
  | cons p rest ih =>
    -- The tap with those that follow it.
    have htap {t : Transcript} (ht : Unstopped t) (h : (do
        let _ ← Stoppable.order (.tap p.x p.y)
        tapAll ctx true rest : Play Unit).run.Goes t r) :
        (r = .ok (.ok ()) ∧
          (asked t).map Sigma.fst = (p :: rest).map fun p => .command (.tap p.x p.y)) ∨
        (r = .error .overflow ∧
          (¬ Waitable ctx.settings.timing.clickSettle ∨
            ¬ Waitable ctx.settings.timing.findAllGap) ∧
          (asked t).map Sigma.fst <+: (p :: rest).map fun p => .command (.tap p.x p.y)) := by
      obtain ⟨a, u, hu, rfl, hrest⟩ := ht.play_order h
      refine (ih hu hrest).imp (fun ⟨hr, htaps⟩ => ⟨hr, ?_⟩)
        fun ⟨hr, hwait, htaps⟩ => ⟨hr, hwait, ?_⟩
      · exact congrArg (Request.command (.tap p.x p.y) :: ·) htaps
      · exact (List.prefix_cons_inj _).2 htaps
    unfold tapAll at h
    cases gap with
    | false => exact htap ht h
    | true =>
      rcases ht.play_pauseSeconds h with ⟨hlong, rfl, rfl⟩ | ⟨d, u, hu, rfl, hrest⟩
      · exact .inr ⟨rfl, .inr hlong, List.nil_prefix⟩
      · have htaps := htap hu hrest
        exact htaps

end Autoplay
