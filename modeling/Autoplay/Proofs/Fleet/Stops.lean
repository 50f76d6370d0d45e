import Autoplay.Proofs.Fleet.Accounting
import Autoplay.Proofs.Fleet.Incidents

/-!
# Stops that end late

A stop tells the workers of the run under way, waits for them, and makes the fleet idle in a second
action. Nothing prevents another run from being started in between, when the workers have come to
their end: then the second action takes this run for the stopped one. The main statement,
`running_until_stop_ends`, says exactly when that is: as long as a worker of a run that was not
stopped is at work, the fleet is running and cannot be started, until a stop ends that was told to a
former run and was under way when the run began; from then on the fleet is idle, and can be started
a second time.

`Fleet.Stops` pairs the two actions of each stop, whatever happens in between. The proof goes
backwards from the worker at the end: who is at work then was at work all along.
-/

namespace Autoplay

namespace Fleet

/-- From a fleet with some stops under way, each with the number of the run that it was told to,
some incidents lead to others under way. A stop that finds a run is under way until its second
action, and only such a stop has one. -/
inductive Stops (p : Plan) : Fleet → List Nat → List Incident → List Nat → Prop where
  /-- Nothing happens. -/
  | nil (f : Fleet) (stops : List Nat) : Stops p f stops [] stops
  /-- A stop begins and is told to the run under way. -/
  | begins {f : Fleet} {stops stops' : List Nat} {xs : List Incident} (told : f.beginStop.2 = true)
      (rest : Stops p f.beginStop.1 (f.run :: stops) xs stops') :
      Stops p f stops (.event .beginStop :: xs) stops'
  /-- One of the stops ends. -/
  | ends {f : Fleet} {stops stops' : List Nat} {xs : List Incident} {run : Nat} (hrun : run ∈ stops)
      (rest : Stops p f.endStop (stops.erase run) xs stops') :
      Stops p f stops (.event .endStop :: xs) stops'
  /-- Something else happens; a stop that finds no run under way is over at once. -/
  | other {f : Fleet} {stops stops' : List Nat} {x : Incident} {xs : List Incident}
      (hx : x ≠ .event .endStop) (untold : x = .event .beginStop → f.beginStop.2 = false)
      (rest : Stops p (f.afterIncident p x) stops xs stops') : Stops p f stops (x :: xs) stops'

variable {p : Plan}

/-- What is no action of a stop changes nothing about the stops under way. -/
theorem Stops.append {f : Fleet} {stops stops' : List Nat} {xs ys : List Incident}
    (hxs : ∀ x ∈ xs, x.isStop = false) (h : Stops p (f.afterIncidents p xs) stops ys stops') :
    Stops p f stops (xs ++ ys) stops' := by
  induction xs generalizing f with
  | nil => exact h
  | cons x xs ih =>
    have hx : x.isStop = false := hxs x List.mem_cons_self
    refine .other ?_ (fun hbegins => ?_) (ih (fun y hy => ?_) h)
    · rintro rfl
      exact nomatch hx
    · rw [hbegins] at hx
      exact nomatch hx
    · exact hxs y (List.mem_cons_of_mem _ hy)

/-- The stops under way were told to runs that have begun. -/
theorem Stops.le_run {f : Fleet} {stops stops' : List Nat} {xs : List Incident}
    (h : Stops p f stops xs stops') (hstops : ∀ run ∈ stops, run ≤ f.run) :
    ∀ run ∈ stops', run ≤ (f.afterIncidents p xs).run := by
  induction h with
  | nil => exact hstops
  | @begins f _ _ _ _ _ ih =>
    refine ih fun run hrun => ?_
    have hsame : f.run ≤ f.beginStop.1.run := f.run_le_afterIncident p (.event .beginStop)
    obtain rfl | hrun := List.mem_cons.1 hrun
    · exact hsame
    · exact Nat.le_trans (hstops run hrun) hsame
  | ends _ _ ih => exact ih fun run hrun => hstops run (List.mem_of_mem_erase hrun)
  | @other f _ _ x _ _ _ _ ih =>
    exact ih fun run hrun => Nat.le_trans (hstops run hrun) (f.run_le_afterIncident p x)

/-- A run that was told to stop stays told. -/
theorem stopped_subset (f : Fleet) (xs : List Incident) :
    f.stopped ⊆ (f.afterIncidents p xs).stopped := by
  induction xs generalizing f with
  | nil => exact fun _ h => h
  | cons x xs ih =>
    have hfirst : f.stopped ⊆ (f.afterIncident p x).stopped := by
      cases f.course p x with
      | still _ _ stopped => exact stopped
      | worked _ _ _ _ stopped => exact stopped ▸ fun _ h => h
      | started _ _ _ stopped => exact stopped ▸ fun _ h => h
    exact List.Subset.trans hfirst (ih _)

/-! ## Who is at work was at work all along -/

/-- Someone of a run is said to be at work. -/
def BusyIn (f : Fleet) (run : Nat) : Prop :=
  ∃ w ∈ f.workers, w.run = run ∧ w.progress.running = true

instance decidableBusyIn (f : Fleet) (run : Nat) : Decidable (f.BusyIn run) :=
  inferInstanceAs (Decidable (∃ w ∈ f.workers, w.run = run ∧ w.progress.running = true))

/-- If it is the last run, the fleet is busy. -/
theorem BusyIn.isBusy {f : Fleet} (h : f.BusyIn f.run) : f.isBusy = true := by
  obtain ⟨w, hw, hrun, hrunning⟩ := h
  exact List.any_eq_true.2 ⟨w, mem_crew.2 ⟨hw, hrun⟩, hrunning⟩

/-- Who is at work after an incident was at work before it, if the run had begun. -/
theorem BusyIn.before {f : Fleet} {x : Incident} {run : Nat}
    (h : (f.afterIncident p x).BusyIn run) (hrun : run ≤ f.run) : f.BusyIn run := by
  obtain ⟨v, hv, hvrun, hrunning⟩ := h
  cases f.course p x with
  | still workers => exact ⟨v, workers ▸ hv, hvrun, hrunning⟩
  | @worked i w w' hw turns workers =>
    rw [workers] at hv
    obtain hold | rfl := List.mem_or_eq_of_mem_set hv
    · exact ⟨v, hold, hvrun, hrunning⟩
    · exact ⟨w, List.mem_of_getElem? hw, turns.run.symm.trans hvrun, turns.running hrunning⟩
  | started _ workers =>
    rw [workers] at hv
    obtain hold | ⟨serial, rfl⟩ := mem_recruits hv
    · exact ⟨v, hold, hvrun, hrunning⟩
    · -- A new worker belongs to a run that had not begun.
      have hnew : f.run + 1 = run := hvrun
      omega

/-- The same for some incidents. -/
theorem BusyIn.before_all {f : Fleet} {xs : List Incident} {run : Nat}
    (h : (f.afterIncidents p xs).BusyIn run) (hrun : run ≤ f.run) : f.BusyIn run := by
  induction xs generalizing f with
  | nil => exact h
  | cons x xs ih =>
    have hfirst : f.run ≤ (f.afterIncident p x).run := f.run_le_afterIncident p x
    exact (ih h (Nat.le_trans hrun hfirst)).before hrun

/-- Who is at work after some incidents, of the last run and not told to stop, is so after the first
one. -/
theorem BusyIn.after_first {f : Fleet} {x : Incident} {xs : List Incident}
    (hbusy : (f.afterIncidents p (x :: xs)).BusyIn f.run)
    (hstopped : f.run ∉ (f.afterIncidents p (x :: xs)).stopped) :
    (f.afterIncident p x).BusyIn f.run ∧ f.run ∉ (f.afterIncident p x).stopped := by
  have hlater : (afterIncidents p (f.afterIncident p x) xs).BusyIn f.run := hbusy
  exact ⟨hlater.before_all (f.run_le_afterIncident p x),
    fun htold => hstopped (stopped_subset _ xs htold)⟩

/-- While someone of the last run is at work that was not told to stop, the fleet is running and no
other run begins, unless a stop ends. -/
theorem BusyIn.keepsRunning {f : Fleet} {x : Incident}
    (hbusy : (f.afterIncident p x).BusyIn f.run)
    (hstopped : f.run ∉ (f.afterIncident p x).stopped) (hstate : f.state = .running)
    (hx : x ≠ .event .endStop) :
    (f.afterIncident p x).state = .running ∧ (f.afterIncident p x).run = f.run := by
  have hbefore : f.isBusy = true := (hbusy.before (Nat.le_refl _)).isBusy
  have hidles : x.idles = false := by
    refine Bool.eq_false_iff.2 fun hidles => ?_
    obtain rfl | rfl := Incident.idles_iff.1 hidles
    · exact hx rfl
    · -- A start that gives up tells its own run to stop.
      exact hstopped List.mem_cons_self
  cases f.course p x with
  | still _ run _ state =>
    obtain hsame | ⟨-, hfree, -⟩ := state hidles
    · exact ⟨hsame.trans hstate, run⟩
    · exact nomatch hbefore.symm.trans hfree
  | worked _ _ _ run _ state => exact ⟨state.trans hstate, run⟩
  | started _ _ _ _ free => exact nomatch hbefore.symm.trans (free hstate)

/-- The same for some incidents. -/
theorem BusyIn.keepsRunning_all {f : Fleet} {xs : List Incident}
    (hbusy : (f.afterIncidents p xs).BusyIn f.run)
    (hstopped : f.run ∉ (f.afterIncidents p xs).stopped) (hstate : f.state = .running)
    (hxs : .event .endStop ∉ xs) :
    (f.afterIncidents p xs).state = .running ∧ (f.afterIncidents p xs).run = f.run := by
  induction xs generalizing f with
  | nil => exact ⟨hstate, rfl⟩
  | cons x xs ih =>
    have hx : x ≠ .event .endStop := (List.ne_of_not_mem_cons hxs).symm
    have hrest : .event .endStop ∉ xs := List.not_mem_of_not_mem_cons hxs
    obtain ⟨hafter, hnot⟩ := hbusy.after_first hstopped
    obtain ⟨hstate', hrun⟩ := hafter.keepsRunning hnot hstate hx
    rw [← hrun] at hbusy hstopped ⊢
    exact ih hbusy hstopped hstate' hrest

/-! ## The stop that ends -/

/-- If a stop ends while someone of a run is at work that was not told to stop, it was under way
already when the run began. -/
theorem Stops.exists_of_ended {f : Fleet} {stops stops' : List Nat} {xs : List Incident}
    (h : Stops p f stops xs stops') (hstate : f.state = .running)
    (hbusy : (f.afterIncidents p xs).BusyIn f.run)
    (hstopped : f.run ∉ (f.afterIncidents p xs).stopped) (hended : .event .endStop ∈ xs) :
    ∃ run, run ∈ stops := by
  induction h with
  | nil => exact absurd hended List.not_mem_nil
  | @begins f _ _ xs told _ _ =>
    -- A stop that begins now is told to this run.
    have htold : f.run ∈ f.beginStop.1.stopped := by
      obtain ⟨state, -, hrefresh⟩ := f.refresh_eq
      unfold beginStop at told ⊢
      simp only [hrefresh] at told ⊢
      split at told
      next hrunning =>
        rw [if_pos hrunning]
        exact List.mem_cons_self
      next => exact nomatch told
    exact absurd (stopped_subset _ xs htold) hstopped
  | ends hrun => exact ⟨_, hrun⟩
  | @other f _ _ x xs hx _ _ ih =>
    obtain ⟨hafter, hnot⟩ := hbusy.after_first hstopped
    obtain ⟨hstate', hrun⟩ := hafter.keepsRunning hnot hstate hx
    have hrest : .event .endStop ∈ xs := (List.mem_cons.1 hended).resolve_left (Ne.symm hx)
    refine ih hstate' ?_ ?_ hrest
    · rw [hrun]
      exact hbusy
    · rw [hrun]
      exact hstopped

/-- An idle fleet stays idle until a run begins. -/
theorem idle_after {f : Fleet} {x : Incident} (hidle : f.state = .idle)
    (hrun : (f.afterIncident p x).run = f.run) : (f.afterIncident p x).state = .idle := by
  cases hidles : x.idles with
  | true => exact idle_of_idles hidles
  | false =>
    cases f.course p x with
    | still _ _ _ state =>
      obtain hsame | ⟨hrunning, -⟩ := state hidles
      · exact hsame.trans hidle
      · exact nomatch hidle.symm.trans hrunning
    | worked _ _ _ _ _ state => exact state.trans hidle
    | started _ _ run => exact absurd (run.symm.trans hrun) (Nat.succ_ne_self _)

/-- The same for some incidents. -/
theorem idle_after_all {f : Fleet} {xs : List Incident} (hidle : f.state = .idle)
    (hrun : (f.afterIncidents p xs).run = f.run) : (f.afterIncidents p xs).state = .idle := by
  induction xs generalizing f with
  | nil => exact hidle
  | cons x xs ih =>
    have hfirst : (f.afterIncident p x).run = f.run := run_eq_of_afterIncidents hrun
    exact ih (idle_after hidle hfirst) (hrun.trans hfirst.symm)

/-- Once a stop has ended, a fleet is idle until a run begins. -/
theorem idle_of_ended {f : Fleet} {xs : List Incident} (hended : .event .endStop ∈ xs)
    (hrun : (f.afterIncidents p xs).run = f.run) : (f.afterIncidents p xs).state = .idle := by
  induction xs generalizing f with
  | nil => exact absurd hended List.not_mem_nil
  | cons x xs ih =>
    have hfirst : (f.afterIncident p x).run = f.run := run_eq_of_afterIncidents hrun
    have hrest : (afterIncidents p (f.afterIncident p x) xs).run = (f.afterIncident p x).run :=
      hrun.trans hfirst.symm
    obtain rfl | hlater := List.mem_cons.1 hended
    · have hidle : (f.afterIncident p (.event .endStop)).state = .idle := rfl
      have hlast := idle_after_all hidle hrest
      exact hlast
    · exact ih hlater hrest

/-- An idle fleet can be started, whoever is at work. -/
theorem beginStart_of_idle {f : Fleet} (hidle : f.state = .idle) (htotal : 0 < f.queue.total)
    {serials : List String} (hserials : serials ≠ []) (resume : Bool)
    (hitches : List (Option Hitch)) :
    f.beginStart serials resume hitches =
      (f.beginRun (enlist serials hitches).1 resume, outcome (enlist serials hitches).2) := by
  have hempty : serials.isEmpty = false := by
    cases serials with
    | nil => exact absurd rfl hserials
    | cons _ _ => rfl
  unfold beginStart
  simp only [refresh_of_idle hidle, hidle]
  rw [if_neg nofun, if_neg (Nat.ne_of_gt htotal), hempty]
  rfl

/-- Take a run, whatever came of its start, that was not told to stop, and a worker of it that is at
work. Until a stop ends, the fleet is running, no other run has begun, and every start is refused.
If a stop has ended since the run began, it was under way then and told to a former run; and if no
other run has begun since, the fleet is idle, and every start with accounts and devices adds its
workers, as far as they can be started, to those at work. If the run was refused a worker and its
start gives up, it is told to stop by that, and the fleet is idle and can be started at once. -/
theorem running_until_stop_ends (p : Plan) {before : List Incident} {stops : List Nat}
    (hbefore : Stops p {} [] before stops) {serials : List String} {resume : Bool}
    {hitches : List (Option Hitch)} {f : Fleet}
    (hstart : ((afterIncidents p {} before).beginStart serials resume hitches).1 = f)
    (hbegins : f.run ≠ (afterIncidents p {} before).run) :
    (∀ xs stops', Stops p f stops xs stops' → (f.afterIncidents p xs).BusyIn f.run →
      (f.afterIncidents p xs).isStopped f.run = false →
      let g := f.afterIncidents p xs
      (.event .endStop ∉ xs →
        g.run = f.run ∧ g.status.2.state = .running ∧
          ∀ serials resume hitches,
            g.beginStart serials resume hitches = (g, .error .alreadyRunning)) ∧
        (.event .endStop ∈ xs →
          (∃ run ∈ stops, run < f.run) ∧
            (g.run = f.run →
              g.status.2.state = .idle ∧
                ∀ serials resume hitches, serials ≠ [] → 0 < g.queue.total →
                  ∃ g', g.beginStart serials resume hitches =
                      (g', outcome (enlist serials hitches).2) ∧ g'.BusyIn f.run ∧
                    g'.workers =
                      g.workers ++ (enlist serials hitches).1.map (recruit (f.run + 1))))) ∧
      ∀ xs, (f.afterIncidents p xs).run = f.run →
        let g := (f.afterIncidents p xs).giveUp
        g.isStopped f.run = true ∧ g.status.2.state = .idle ∧
          ∀ serials resume hitches, serials ≠ [] → 0 < g.queue.total →
            (g.beginStart serials resume hitches).2 = outcome (enlist serials hitches).2 := by
  obtain ⟨state, e, -, -, hfails⟩ | ⟨-, hbegun⟩ :=
    (afterIncidents p {} before).beginStart_cases serials resume hitches
  · rw [hfails] at hstart
    exact absurd (congrArg Fleet.run hstart.symm) hbegins
  rw [hbegun] at hstart
  have hrunning : f.state = .running := congrArg Fleet.state hstart.symm
  have hnumber : f.run = (afterIncidents p {} before).run + 1 := congrArg Fleet.run hstart.symm
  refine ⟨fun xs stops' hxs hbusy hstopped => ?_, fun xs hrun => ?_⟩
  · intro g
    have hnot : f.run ∉ g.stopped := of_decide_eq_false hstopped
    refine ⟨fun hnone => ?_, fun hended => ⟨?_, fun hrun => ?_⟩⟩
    · obtain ⟨hstate, hrun⟩ := hbusy.keepsRunning_all hnot hrunning hnone
      have hbusy' : g.isBusy = true := BusyIn.isBusy (hrun ▸ hbusy)
      have hsame : g.refresh = g := refresh_of_busy hbusy'
      refine ⟨hrun, ?_, fun serials resume hitches => ?_⟩
      · show g.refresh.state = .running
        rw [hsame]
        exact hstate
      · unfold beginStart
        simp only [hsame]
        rw [if_pos hstate]
    · obtain ⟨run, hmem⟩ := hxs.exists_of_ended hrunning hbusy hnot hended
      have hle : run ≤ (afterIncidents p {} before).run := hbefore.le_run nofun run hmem
      exact ⟨run, hmem, by omega⟩
    · have hidle : g.state = .idle := idle_of_ended hended hrun
      refine ⟨?_, fun serials resume hitches hserials htotal => ?_⟩
      · show g.refresh.state = .idle
        rw [refresh_of_idle hidle]
        exact hidle
      · have hstarts := beginStart_of_idle hidle htotal hserials resume hitches
        obtain ⟨w, hw, hwrun, hwrunning⟩ := hbusy
        refine ⟨_, hstarts, ⟨w, List.mem_append_left _ hw, hwrun, hwrunning⟩, ?_⟩
        rw [← hrun]
        rfl
  · intro g
    have hidle : g.state = .idle := rfl
    refine ⟨decide_eq_true ?_, ?_, fun serials resume hitches hserials htotal => ?_⟩
    · rw [← hrun]
      exact List.mem_cons_self
    · show g.refresh.state = .idle
      rw [refresh_of_idle hidle]
      exact hidle
    · rw [beginStart_of_idle hidle htotal hserials]

/-- Two accounts are left, and a run of one device begins. -/
def oneBegins : List FleetEvent := oneMarked ++ [.start ["one"] true]

/-- The run is told to stop, and its worker comes to its end, but the stop does not. -/
def handover : List Incident :=
  oneBegins.map .event ++ .event .beginStop :: (turns 0 5).map .event

/-- The fleet when the run has begun. -/
theorem afterIncidents_oneBegins : afterIncidents promptPlan {} (oneBegins.map .event) =
    (twoWaiting.start ["one"] true).1 := by
  rw [oneBegins, afterIncidents_events, afterAll_append, afterAll_oneMarked]
  rfl

/-- The fleet when its worker has come to its end. -/
theorem afterIncidents_handover : afterIncidents promptPlan {} handover =
    (twoWaiting.start ["one"] true).1.beginStop.1.afterAll promptPlan (turns 0 5) := by
  rw [handover, afterIncidents_append, afterIncidents_oneBegins]
  exact afterIncidents_events promptPlan _ _

/-- The stop of the run is under way. -/
theorem handover_stops : Stops promptPlan {} [] handover [1] := by
  have hbegins : ∀ x ∈ oneBegins.map Incident.event, x.isStop = false := by decide +kernel
  have hheeds : ∀ x ∈ (turns 0 5).map Incident.event, x.isStop = false := by decide +kernel
  refine .append hbegins ?_
  rw [afterIncidents_oneBegins]
  refine .begins (by decide +kernel) ?_
  rw [← List.append_nil ((turns 0 5).map _)]
  exact .append hheeds (.nil _ _)

/-- Another run begins during the stop of the first one. It is under way and cannot be started again
until that stop ends; then it can. -/
theorem stop_ends_in_next_run :
    let f := ((afterIncidents promptPlan {} handover).start ["two"] true).1
    f.status.2.state = .running ∧ (f.start ["three"] true).2 = .error .alreadyRunning ∧
      f.endStop.status.2.state = .idle ∧
      ∃ g, f.endStop.start ["three"] true = (g, .ok ()) ∧ g.BusyIn f.run := by
  intro f
  have hf : f = (((twoWaiting.start ["one"] true).1.beginStop.1.afterAll promptPlan
      (turns 0 5)).start ["two"] true).1 := by
    show ((afterIncidents promptPlan {} handover).start ["two"] true).1 = _
    rw [afterIncidents_handover]
  have hstart : ((afterIncidents promptPlan {} handover).beginStart ["two"] true).1 = f := by
    rw [← start_eq]
  have hbegins : f.run ≠ (afterIncidents promptPlan {} handover).run := by
    rw [hf, afterIncidents_handover]
    decide +kernel
  have hbusy : f.BusyIn f.run := by
    rw [hf]
    decide +kernel
  have hstopped : f.isStopped f.run = false := by
    rw [hf]
    decide +kernel
  have htotal : 0 < f.endStop.queue.total := by
    rw [hf]
    decide +kernel
  have hends : Stops promptPlan f [1] [.event .endStop] [] :=
    .ends (List.mem_singleton_self 1) (.nil _ _)
  obtain ⟨hlater, -⟩ := running_until_stop_ends promptPlan handover_stops hstart hbegins
  -- Before the stop ends.
  obtain ⟨hrunning, -⟩ := hlater [] [1] (.nil f [1]) hbusy hstopped
  obtain ⟨-, hstate, hrefused⟩ := hrunning List.not_mem_nil
  have hthree : (f.start ["three"] true).2 = .error .alreadyRunning := by
    rw [start_eq]
    exact congrArg Prod.snd (hrefused ["three"] true [])
  -- After it has ended.
  obtain ⟨-, hidle⟩ := hlater [.event .endStop] [] hends hbusy hstopped
  obtain ⟨hidle, hstarts⟩ := (hidle List.mem_cons_self).2 rfl
  obtain ⟨g, hg, hbusy', -⟩ := hstarts ["three"] true [] nofun htotal
  refine ⟨hstate, hthree, hidle, g, ?_, hbusy'⟩
  rw [start_eq]
  exact hg

/-- A worker of the other run is at work, which was not told to stop. Nevertheless the fleet is idle
when the stop has ended, and a third device is started beside it. -/
theorem next_run_taken_for_stopped :
    let f := ((afterIncidents promptPlan {} handover).start ["two"] true).1
    let g := f.afterIncidents promptPlan [.event .endStop]
    Stops promptPlan {} [] handover [1] ∧ Stops promptPlan f [1] [.event .endStop] [] ∧
      g.BusyIn f.run ∧ g.isStopped f.run = false ∧ g.status.2.state = .idle ∧
      (g.start ["three"] true).2 = .ok () ∧ (g.start ["three"] true).1.BusyIn f.run ∧
      (g.start ["three"] true).1.BusyIn (f.run + 1) := by
  intro f g
  have hf : f = (((twoWaiting.start ["one"] true).1.beginStop.1.afterAll promptPlan
      (turns 0 5)).start ["two"] true).1 := by
    show ((afterIncidents promptPlan {} handover).start ["two"] true).1 = _
    rw [afterIncidents_handover]
  have hends : Stops promptPlan f [1] [.event .endStop] [] :=
    .ends (List.mem_singleton_self 1) (.nil _ _)
  have hg : g = f.endStop := rfl
  refine ⟨handover_stops, hends, ?_⟩
  rw [hg, hf]
  decide +kernel

end Fleet

end Autoplay
