import Autoplay.Proofs.Fleet.Accounting
import Autoplay.Proofs.Fleet.Incidents

/-!
# A completed run is final

Nobody tells a fleet that a run is completed: whoever looks concludes it from what is known of the
workers, one after the other. The main statement, `completed_is_final`, is about a fleet that is not
stopped, with workers that act in any order and may break down: it cannot be started just as long as
someone is said to be at work, a start that fails before its run has begun leaves everything as it
was, and once the run is seen to be completed all workers have done their last action, so that
whoever looks later sees the same until another run begins. That the workers are looked at one after
the other makes no difference (`flags_read_in_turn`), since nobody is said to be at work again. A
start that is refused a worker fails as well, but by then its run has begun
(`refused_start_begins_run`).
-/

namespace Autoplay

/-- A list does not change when a member is replaced by itself. -/
theorem set_of_getElem? {α : Type} {l : List α} {i : Nat} {a : α} (h : l[i]? = some a) :
    l.set i a = l := by
  obtain ⟨hi, rfl⟩ := List.getElem?_eq_some_iff.1 h
  exact List.set_getElem_self hi

/-- What becomes of a worker in two incidents. -/
theorem Worker.Turns.trans {u v w : Worker} (h : u.Turns v) (h' : v.Turns w) : u.Turns w := by
  refine ⟨h'.run.trans h.run, fun hrunning => h.running (h'.running hrunning),
    fun hcandid => h'.candid (h.candid hcandid), fun hover => ?_⟩
  obtain rfl := h.isOver hover
  exact h'.isOver hover

namespace Fleet

/-! ## What is known of the workers of a run -/

/-- What becomes of the workers of a run in an incident of it. -/
theorem crew_turns_after {p : Plan} {f : Fleet} {x : Incident}
    (hrun : (f.afterIncident p x).run = f.run) :
    List.Forall₂ Worker.Turns f.crew (f.afterIncident p x).crew := by
  have hcourse := f.course p x
  generalize f.afterIncident p x = f' at hcourse hrun ⊢
  have hrefl (ws : List Worker) : List.Forall₂ Worker.Turns ws ws :=
    List.forall₂_same.2 fun w _ => .refl w
  refine forall₂_crew Worker.Turns.run hrun ?_
  cases hcourse with
  | still workers => exact workers ▸ hrefl _
  | worked hw turns workers => exact workers ▸ forall₂_set .refl hw turns
  | started _ _ run => exact absurd (run.symm.trans hrun) (Nat.succ_ne_self _)

/-- What becomes of the workers of a run in all incidents of it. -/
theorem crew_turns {p : Plan} {f : Fleet} {xs : List Incident}
    (hrun : (f.afterIncidents p xs).run = f.run) :
    List.Forall₂ Worker.Turns f.crew (f.afterIncidents p xs).crew := by
  induction xs generalizing f with
  | nil => exact List.forall₂_same.2 fun w _ => .refl w
  | cons x xs ih =>
    have hfirst : (f.afterIncident p x).run = f.run := run_eq_of_afterIncidents hrun
    have hothers : List.Forall₂ Worker.Turns (f.afterIncident p x).crew
        (f.afterIncidents p (x :: xs)).crew := ih (hrun.trans hfirst.symm)
    exact forall₂_trans .trans (crew_turns_after hfirst) hothers

/-- No run begins by what the workers do. -/
theorem run_of_work {p : Plan} {f : Fleet} {xs : List Incident} (hxs : ∀ x ∈ xs, x.isWork = true) :
    (f.afterIncidents p xs).run = f.run := by
  refine incidents_induction (I := fun g => g.run = f.run) (fun g x hx hg => ?_) rfl hxs
  cases g.course p x with
  | still _ run => exact run.trans hg
  | worked _ _ _ run => exact run.trans hg
  | started hstart => exact nomatch hstart.symm.trans (Incident.isStart_eq_false hx)

/-- Who looks at the workers of a run one after the other, each at a moment of its own during some
incidents, sees someone at work. -/
def SeesWork (p : Plan) (f : Fleet) (xs : List Incident) (moment : Nat → Nat) : Prop :=
  ∃ j w, (f.afterIncidents p (xs.take (moment j))).crew[j]? = some w ∧ w.progress.running = true

/-- This is so just if there is a moment at which someone is at work. -/
theorem flags_read_in_turn {p : Plan} {f : Fleet} {xs : List Incident}
    (hrun : (f.afterIncidents p xs).run = f.run) (moment : Nat → Nat) :
    ∃ n, f.SeesWork p xs moment ↔ (f.afterIncidents p (xs.take n)).isBusy = true := by
  by_cases hseen : f.SeesWork p xs moment
  · -- The moment is the one at which that worker was looked at.
    obtain ⟨j, w, hw, hrunning⟩ := hseen
    have hbusy : (f.afterIncidents p (xs.take (moment j))).isBusy = true :=
      List.any_eq_true.2 ⟨w, List.mem_of_getElem? hw, hrunning⟩
    exact ⟨moment j, fun _ => hbusy, fun _ => ⟨j, w, hw, hrunning⟩⟩
  · -- The moment is the last one: who was not at work when it was looked at is not at work then.
    refine ⟨xs.length, fun h => absurd h hseen, fun hbusy => ?_⟩
    rw [List.take_length] at hbusy
    obtain ⟨w, hw, hrunning⟩ := List.any_eq_true.1 hbusy
    obtain ⟨j, hj, rfl⟩ := List.getElem_of_mem hw
    refine absurd ?_ hseen
    let g := f.afterIncidents p (xs.take (moment j))
    have hlater : g.afterIncidents p (xs.drop (moment j)) = f.afterIncidents p xs := by
      rw [← afterIncidents_append, List.take_append_drop]
    have hbefore : f.run ≤ g.run := run_le_afterIncidents p f _
    have hafter : g.run ≤ (g.afterIncidents p (xs.drop (moment j))).run :=
      run_le_afterIncidents p g _
    have hsame : (g.afterIncidents p (xs.drop (moment j))).run = g.run := by
      rw [hlater] at hafter ⊢
      omega
    have hcrew := crew_turns hsame
    rw [hlater] at hcrew
    have hj' : j < g.crew.length := hcrew.length_eq.symm ▸ hj
    exact ⟨j, g.crew[j], List.getElem?_eq_getElem hj', (hcrew.get hj' hj).running hrunning⟩

/-! ## When a fleet cannot be started -/

/-- A look says that a run is under way just if someone is at work in one that was started. -/
theorem refresh_running_iff (f : Fleet) :
    f.refresh.state = .running ↔ f.state = .running ∧ f.isBusy = true := by
  unfold refresh
  cases f.isBusy with
  | true => simp only [Bool.not_true, Bool.false_eq_true, and_false, if_false, and_true]
  | false =>
    simp only [Bool.not_false, and_true, Bool.false_eq_true, and_false, iff_false]
    split
    · exact nofun
    next hstate => exact hstate

/-- Who is kept from starting a worker is not told that a run is under way. -/
theorem outcome_ne (hitch : Option (String × Hitch)) {e : FleetError} (he : e.isLate = false) :
    outcome hitch ≠ .error e := by
  rintro h
  match hitch with
  | none => exact nomatch h
  | some (serial, .refused reason) =>
    obtain rfl : FleetError.unstartable serial reason = e := Attempt.error.inj h
    exact nomatch he
  | some (_, .unnameable) => exact nomatch h

/-- A start is refused just if a look says that a run is under way. -/
theorem start_refused_iff (f : Fleet) (serials : List String) (resume : Bool)
    (hitches : List (Option Hitch)) :
    (f.beginStart serials resume hitches).2 = .error .alreadyRunning ↔
      f.refresh.state = .running := by
  unfold beginStart
  dsimp only
  split
  next hrunning => exact ⟨fun _ => hrunning, fun _ => rfl⟩
  next hfree =>
    refine iff_of_false ?_ hfree
    split
    · exact nofun
    split
    · exact nofun
    · exact outcome_ne _ rfl

namespace Consecutive

variable {f : Fleet}

/-- Who has not come to an end is a worker of the last run. -/
theorem run_eq (h : f.Consecutive) {w : Worker} (hw : w ∈ f.workers) (hunended : w.phase ≠ .ended) :
    w.run = f.run :=
  not_not.1 fun hformer => hunended (h.former w hw hformer)

/-- Nobody is said to be at work when everyone has come to an end. -/
theorem free (h : f.Consecutive) (hended : ∀ w ∈ f.workers, w.phase = .ended) :
    f.isBusy = false := by
  refine List.any_eq_false.2 fun w hw => ?_
  have hmem : w ∈ f.workers := (mem_crew.1 hw).1
  exact fun hrunning => (h.candid w hmem).running_iff.1 hrunning (hended w hmem)

/-- If the runs do not overlap, a start is refused just as long as someone is said to be at work. -/
theorem refused_iff (h : f.Consecutive) (serials : List String) (resume : Bool)
    (hitches : List (Option Hitch)) :
    (f.beginStart serials resume hitches).2 = .error .alreadyRunning ↔
      ∃ w ∈ f.workers, w.progress.running = true := by
  rw [start_refused_iff, refresh_running_iff]
  constructor
  · rintro ⟨-, hbusy⟩
    obtain ⟨w, hw, hrunning⟩ := List.any_eq_true.1 hbusy
    exact ⟨w, (mem_crew.1 hw).1, hrunning⟩
  · rintro ⟨w, hw, hrunning⟩
    have hunended : w.phase ≠ .ended := (h.candid w hw).running_iff.1 hrunning
    have hlast : w.run = f.run := h.run_eq hw hunended
    have hbusy : f.isBusy = true :=
      List.any_eq_true.2 ⟨w, mem_crew.2 ⟨hw, hlast⟩, hrunning⟩
    refine ⟨?_, hbusy⟩
    cases hstate : f.state with
    | idle => exact absurd (h.idle hstate ▸ hw) List.not_mem_nil
    | completed => exact absurd (h.completed hstate w hw) hunended
    | running => rfl

end Consecutive

/-! ## After the end of a run -/

/-- Who notices that a run is completed does not make the fleet idle. -/
theorem Notices.ne_idle {f : Fleet} {state : FleetState} (h : f.Notices state)
    (hbegun : f.state ≠ .idle) : state ≠ .idle := by
  obtain hsame | ⟨-, -, hcompleted⟩ := h
  · exact hsame ▸ hbegun
  · exact hcompleted ▸ by decide

/-- All workers of a fleet have come to their end, and it was not stopped. -/
structure Finished (f : Fleet) : Prop where
  /-- Everyone has come to an end. -/
  ended : ∀ w ∈ f.workers, w.phase = .ended
  /-- Nobody is said to be at work. -/
  free : f.isBusy = false
  /-- There was a run. -/
  begun : f.state ≠ .idle

namespace Finished

variable {p : Plan} {f : Fleet}

/-- The work of all workers is over. -/
theorem isOver (h : f.Finished) {i : Nat} {w : Worker} (hw : f.workers[i]? = some w) :
    w.phase.isOver = true := by
  rw [h.ended w (List.mem_of_getElem? hw)]
  rfl

/-- Whoever looks sees a completed run. -/
theorem refresh_eq (h : f.Finished) : f.refresh = { f with state := .completed } := by
  unfold refresh
  cases hstate : f.state with
  | idle => exact absurd hstate h.begun
  | running =>
    have hcompleted : FleetState.running = .running ∧ (!f.isBusy) = true :=
      ⟨rfl, by rw [h.free]; rfl⟩
    rw [if_pos hcompleted]
  | completed =>
    rw [if_neg fun hrunning => nomatch hrunning.1]
    rw [← hstate]

/-- If a look sees a completed run of a fleet whose runs do not overlap, all work is done. -/
theorem of_completed (hf : f.Consecutive) (h : f.refresh.state = .completed) : f.Finished := by
  obtain ⟨state, hnotices, hrefresh⟩ := f.refresh_eq
  rw [hrefresh] at h
  have hcompleted : state = .completed := h
  have hended : ∀ w ∈ f.workers, w.phase = .ended := by
    obtain hsame | ⟨-, hfree, -⟩ := hnotices
    · exact hf.completed (hsame.symm.trans hcompleted)
    · exact hf.ended fun _ => hfree
  refine ⟨hended, hf.free hended, fun hidle => ?_⟩
  obtain hsame | ⟨hrunning, -⟩ := hnotices
  · exact nomatch hidle.symm.trans (hsame.symm.trans hcompleted)
  · exact nomatch hidle.symm.trans hrunning

/-- Nothing that a worker does changes anything any more. -/
theorem work_eq (h : f.Finished) {x : Incident} (hx : x.isWork = true) :
    f.afterIncident p x = f := by
  cases x with
  | breakdown i =>
    obtain hsame | ⟨w, q, hw, hq, -⟩ := f.breakDown_cases i
    · exact hsame
    · exact absurd (h.ended w (List.mem_of_getElem? hw)) (Phase.ne_of_question? hq rfl)
  | attempt | giveUp => exact absurd hx Bool.false_ne_true
  | event e =>
    cases e with
    | act i =>
      show f.act p i = f
      cases hw : f.workers[i]? with
      | none => simp only [act, hw]
      | some w =>
        have hidle := ((Bench.act_step p (f.isStopped w.run) ⟨f.queue, f.files, w⟩).eq_of_isOver
          (h.isOver hw)).1
        simp only [act, hw, hidle, set_of_getElem? hw]
    | answer i reply =>
      obtain hsame | ⟨w, q, hw, hq, -⟩ := f.answer_cases p i reply
      · exact hsame
      · exact absurd (h.ended w (List.mem_of_getElem? hw)) (Phase.ne_of_question? hq rfl)
    | _ => exact absurd hx Bool.false_ne_true

/-- An incident that neither stops the fleet nor starts it changes nothing but the files, if nobody
calls the queue. -/
theorem after (h : f.Finished) {x : Incident} (hstop : x.isStop = false) (hcall : x.isCall = false)
    (hrun : (f.afterIncident p x).run = f.run) :
    (f.afterIncident p x).Finished ∧ (f.afterIncident p x).workers = f.workers ∧
      (f.afterIncident p x).queue = f.queue := by
  cases x with
  | breakdown i =>
    rw [h.work_eq rfl]
    exact ⟨h, rfl, rfl⟩
  | giveUp => exact absurd hstop.symm Bool.false_ne_true
  | attempt serials resume hitches =>
    obtain ⟨state, e, hnotices, -, hfails⟩ | ⟨-, hbegins⟩ :=
      f.beginStart_cases serials resume hitches
    · rw [afterIncident, hfails]
      exact ⟨⟨h.ended, h.free, hnotices.ne_idle h.begun⟩, rfl, rfl⟩
    · rw [afterIncident, hbegins] at hrun
      exact absurd hrun (Nat.succ_ne_self _)
  | event e =>
    have hchange := f.after_change p e
    have hends : e ≠ .endStop := by
      rintro rfl
      exact absurd hstop.symm Bool.false_ne_true
    change (f.after p e).run = f.run at hrun
    show (f.after p e).Finished ∧ (f.after p e).workers = f.workers ∧ (f.after p e).queue = f.queue
    generalize f.deed e = d at hchange
    generalize f.after p e = f' at hchange hrun ⊢
    cases hchange with
    | still queue workers run _ state =>
      have hcrew : f'.crew = f.crew := by rw [crew, crew, workers, run]
      refine ⟨⟨workers ▸ h.ended, ?_, (state hends).ne_idle h.begun⟩, workers, queue⟩
      rw [isBusy, hcrew]
      exact h.free
    | called he => exact absurd he (FleetEvent.ne_call hcall _)
    | @worked i w b' _ hw step queue workers run _ state =>
      obtain ⟨rfl, -⟩ := step.eq_of_isOver (h.isOver hw)
      have hsame : f'.workers = f.workers := workers.trans (set_of_getElem? hw)
      have hcrew : f'.crew = f.crew := by rw [crew, crew, hsame, run]
      refine ⟨⟨hsame ▸ h.ended, ?_, state ▸ h.begun⟩, hsame, queue⟩
      rw [isBusy, hcrew]
      exact h.free
    | started _ _ _ run => exact absurd (run.symm.trans hrun) (Nat.succ_ne_self _)

/-- So do all such incidents together. -/
theorem afterIncidents (h : f.Finished) {xs : List Incident}
    (hxs : ∀ x ∈ xs, x.isStop = false ∧ x.isCall = false)
    (hrun : (f.afterIncidents p xs).run = f.run) :
    (f.afterIncidents p xs).Finished ∧ (f.afterIncidents p xs).workers = f.workers ∧
      (f.afterIncidents p xs).queue = f.queue := by
  induction xs generalizing f with
  | nil => exact ⟨h, rfl, rfl⟩
  | cons x xs ih =>
    obtain ⟨hstop, hcall⟩ := hxs x List.mem_cons_self
    have hfirst : (f.afterIncident p x).run = f.run := run_eq_of_afterIncidents hrun
    obtain ⟨hfinished, hworkers, hqueue⟩ := h.after hstop hcall hfirst
    obtain ⟨hlast, hworkers', hqueue'⟩ := ih hfinished
      (fun y hy => hxs y (List.mem_cons_of_mem _ hy)) (hrun.trans hfirst.symm)
    exact ⟨hlast, hworkers'.trans hworkers, hqueue'.trans hqueue⟩

end Finished

/-- A fleet that was never stopped, and in which no start gave up, can be started unless someone is
said to be at work; whoever looks at the workers one after the other sees someone at work just if
there is a moment at which someone is. A start that fails early changes nothing but what was noticed
of the state. One that is refused a worker has begun a run with those before it; when it gives up,
they are told to stop and the fleet is idle. Once a status says that the run is completed, all
workers have come to their end and do nothing more; until another run begins, and if nobody else
calls the queue, every later status is the same. -/
theorem completed_is_final (p : Plan) (before : List Incident)
    (hbefore : ∀ x ∈ before, x.isStop = false) :
    let f := afterIncidents p {} before
    (∀ serials resume hitches,
        (f.beginStart serials resume hitches).2 = .error .alreadyRunning ↔
          ∃ w ∈ f.workers, w.progress.running = true) ∧
      (∀ xs : List Incident, (∀ x ∈ xs, x.isWork = true) → ∀ moment,
        ∃ n, f.SeesWork p xs moment ↔ (f.afterIncidents p (xs.take n)).isBusy = true) ∧
      (∀ serials resume hitches f' e, f.beginStart serials resume hitches = (f', .error e) →
        (e.isLate = false → f' = { f with state := f'.state }) ∧
        (e.isLate = true →
          f' = f.beginRun (enlist serials hitches).1 resume ∧
          ∀ xs : List Incident, (∀ x ∈ xs, x.isWork = true) →
            let g := (f'.afterIncidents p xs).giveUp
            g.run = f.run + 1 ∧ g.isStopped g.run = true ∧ g.status.2.state = .idle)) ∧
      (f.status.2.state = .completed →
        (∀ w ∈ f.workers, w.phase = .ended ∧ w.progress.running = false) ∧
        ∀ xs : List Incident, (∀ x ∈ xs, x.isStop = false ∧ x.isCall = false) →
          let g := f.status.1.afterIncidents p xs
          g.run = f.run →
            g.status.2 = f.status.2 ∧ g.workers = f.workers ∧
              ∀ x : Incident, x.isWork = true → g.afterIncident p x = g) := by
  intro f
  have hf : f.Consecutive := consecutive_empty.afterIncidents hbefore
  refine ⟨hf.refused_iff, fun xs hxs moment => ?_, fun serials resume hitches f' e hfails => ?_,
    fun hcompleted => ?_⟩
  · exact flags_read_in_turn (run_of_work hxs) moment
  · obtain ⟨state, early, -, hearly, hstart⟩ | ⟨-, hbegins⟩ :=
      f.beginStart_cases serials resume hitches
    · obtain ⟨rfl, herror⟩ := Prod.mk.inj (hfails.symm.trans hstart)
      obtain rfl : e = early := Attempt.error.inj herror
      exact ⟨fun _ => rfl, fun hlate => nomatch hearly.symm.trans hlate⟩
    · obtain ⟨rfl, herror⟩ := Prod.mk.inj (hfails.symm.trans hbegins)
      refine ⟨fun hearly => absurd herror.symm (outcome_ne _ hearly), fun _ => ⟨rfl, ?_⟩⟩
      intro xs hxs g
      refine ⟨run_of_work hxs, decide_eq_true List.mem_cons_self, ?_⟩
      show g.refresh.state = .idle
      rw [refresh_of_idle rfl]
      rfl
  · have hdone : f.Finished := .of_completed hf hcompleted
    have hseen : f.status.1 = { f with state := .completed } := hdone.refresh_eq
    have hlooked : f.status.1.Finished := by
      rw [hseen]
      exact ⟨hdone.ended, hdone.free, nofun⟩
    refine ⟨fun w hw => ?_, fun xs hxs => ?_⟩
    · have hend : w.phase = .ended := hdone.ended w hw
      exact ⟨hend, (hf.candid w hw).2 hend⟩
    · intro g hrun
      obtain ⟨hrun₁, hworkers₁, hqueue₁⟩ : f.status.1.run = f.run ∧
          f.status.1.workers = f.workers ∧ f.status.1.queue = f.queue := by
        rw [hseen]
        exact ⟨rfl, rfl, rfl⟩
      obtain ⟨hlast, hworkers₂, hqueue₂⟩ := hlooked.afterIncidents hxs (hrun.trans hrun₁.symm)
      have hworkers : g.workers = f.workers := hworkers₂.trans hworkers₁
      have hqueue : g.queue = f.queue := hqueue₂.trans hqueue₁
      have hcrew : g.crew = f.crew := by rw [crew, crew, hworkers, hrun]
      refine ⟨?_, hworkers, fun x hx => hlast.work_eq hx⟩
      calc g.status.2
        _ = ⟨.completed, g.crew.map Worker.progress, g.queue⟩ := by
            rw [status, hlast.refresh_eq]
            rfl
        _ = ⟨.completed, f.crew.map Worker.progress, f.queue⟩ := by rw [hcrew, hqueue]
        _ = f.status.2 := by
            rw [status, hdone.refresh_eq]
            rfl

/-- Two accounts are left, and one device processes them. -/
def oneDevice : List FleetEvent := .start ["one"] true :: turns 0 60

/-- The fleet after that. -/
theorem afterIncidents_oneDevice :
    afterIncidents promptPlan {} (oneMarked.map .event ++ oneDevice.map .event) =
      twoWaiting.afterAll promptPlan oneDevice := by
  rw [afterIncidents_append, afterIncidents_events, afterIncidents_events, afterAll_oneMarked]

/-- The system has no room for another worker. -/
def noRoom : SystemError := .other "Resource temporarily unavailable (os error 11)"

/-- The run of the one device ends, and a status says so. Somebody looks, fails to start another run
without devices, and the worker is given the chance to act; the status is still the same. Then the
start of another device is refused its worker, gives up, and the fleet is idle. -/
theorem one_device_completes :
    let before : List Incident := oneMarked.map .event ++ oneDevice.map .event
    let f := afterIncidents promptPlan {} before
    let xs : List Incident := [.event .look, .event (.start [] true), .event (.act 0), .breakdown 0]
    let g := f.status.1.afterIncidents promptPlan xs
    let h := (f.beginStart ["two"] true [some (.refused noRoom)]).1
    f.status.2.state = .completed ∧ f.queue.remaining = 0 ∧ g.run = f.run ∧
      g.status.2 = f.status.2 ∧ (f.beginStart ["one"] true).2 ≠ .error .alreadyRunning ∧
      h.giveUp.run = f.run + 1 ∧ h.giveUp.status.2.state = .idle := by
  intro before f xs g h
  have hf : f = twoWaiting.afterAll promptPlan oneDevice := afterIncidents_oneDevice
  have hbefore : ∀ x ∈ before, x.isStop = false := by decide +kernel
  have hxs : ∀ x ∈ xs, x.isStop = false ∧ x.isCall = false := by decide +kernel
  have hcompleted : f.status.2.state = .completed := by
    rw [hf]
    decide +kernel
  have hremaining : f.queue.remaining = 0 := by
    rw [hf]
    decide +kernel
  have hrun : g.run = f.run := by
    show (f.status.1.afterIncidents promptPlan xs).run = f.run
    rw [hf]
    decide +kernel
  have hrefuses : f.beginStart ["two"] true [some (.refused noRoom)] =
      (h, .error (.unstartable "two" noRoom)) := by
    have herror : (f.beginStart ["two"] true [some (.refused noRoom)]).2 =
        .error (.unstartable "two" noRoom) := by
      rw [hf]
      decide +kernel
    rw [← herror]
  obtain ⟨hrefused, -, hfailing, hfinal⟩ := completed_is_final promptPlan before hbefore
  obtain ⟨hended, hlater⟩ := hfinal hcompleted
  obtain ⟨hsame, -, -⟩ := hlater xs hxs hrun
  obtain ⟨-, hgivesUp⟩ := (hfailing ["two"] true _ h _ hrefuses).2 rfl
  obtain ⟨hnext, -, hidle⟩ := hgivesUp [] nofun
  refine ⟨hcompleted, hremaining, hrun, hsame, fun halready => ?_, hnext, hidle⟩
  obtain ⟨w, hw, hrunning⟩ := (hrefused ["one"] true []).1 halready
  exact absurd hrunning (Bool.eq_false_iff.1 (hended w hw).2)

/-- The same run ends, and a status says so. The next start is refused the worker of its second
device. It returns an error, but the queue has started again, another device is seen, its worker is
told to stop while it is said to be at work, and nevertheless one more start is not refused. Nor
does a start that breaks off at its first device leave what was seen. -/
theorem refused_start_begins_run :
    let before : List Incident := oneMarked.map .event ++ oneDevice.map .event
    let f := afterIncidents promptPlan {} before
    let g := (f.start ["two", "three"] true [none, some (.refused noRoom)]).1
    let h := (f.start ["four"] true [some .unnameable]).1
    (∀ x ∈ before, x.isStop = false) ∧ f.status.2.state = .completed ∧ f.queue.remaining = 0 ∧
      f.status.2.devices.map Progress.serial = ["one"] ∧
      (f.start ["two", "three"] true [none, some (.refused noRoom)]).2 =
        .error (.unstartable "three" noRoom) ∧
      g.queue.remaining = 3 ∧ g.status.2.devices.map Progress.serial = ["two"] ∧
      g.isStopped g.run = true ∧ (∃ w ∈ g.workers, w.progress.running = true) ∧
      (g.start ["one"] true).2 = .ok () ∧
      (f.start ["four"] true [some .unnameable]).2 = .broken ∧
      h.queue.remaining = 3 ∧ h.status.2.devices = [] := by
  intro before f g h
  have hf : f = twoWaiting.afterAll promptPlan oneDevice := afterIncidents_oneDevice
  have hbefore : ∀ x ∈ before, x.isStop = false := by decide +kernel
  refine ⟨hbefore, ?_⟩
  show f.status.2.state = .completed ∧ _
  dsimp only [g, h]
  rw [hf]
  decide +kernel

end Fleet

end Autoplay
