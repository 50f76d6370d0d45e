import Autoplay.Proofs.Account.Lasting
import Autoplay.Proofs.Fleet.Finality

/-!
# Workers that break down

A worker says that its work is over on every way to its end, but not if it breaks down. The main
statement, `completed_unless_broken_down`, is about a fleet that is not stopped: when the work of
all workers is over, the run is completed just if none of them broke down. Otherwise it is said to
be under way for ever and keeps the fleet from being started. A worker breaks down for reasons
outside, or at a wait of its plan that is too long for any clock.
-/

namespace Autoplay

open Dialogue (Lasts)

/-- The waits of a plan, in seconds. -/
def Plan.waits (p : Plan) : List Float :=
  p.settings.timing.betweenAccounts :: p.settings.cycleWaits p.workflow

/-- What a worker still asks in its phase lasts for a number of answers; if it has broken down, it
had a reason to, or no answers are left. -/
def Phase.Lasts (P : Breakdown → Prop) (n : Nat) : Phase → Prop
  | .connecting rest => rest.Lasts P n
  | .cycling _ rest => rest.Lasts P n
  | .resting rest => rest.Lasts P n
  | .crashed => (∃ b, P b) ∨ n = 0
  | _ => True

namespace Phase

/-- The work of a worker is over at its end or when it has broken down. -/
theorem isOver_cases {φ : Phase} (h : φ.isOver = true) : φ = .ended ∨ φ = .crashed := by
  cases φ <;> simp [isOver] at h ⊢

/-- It has come to its end unless it has broken down. -/
theorem ended_iff {φ : Phase} (h : φ.isOver = true) : φ = .ended ↔ φ ≠ .crashed := by
  obtain rfl | rfl := isOver_cases h <;> simp

variable {P : Breakdown → Prop} {n : Nat}

/-- Fewer answers may be taken for granted. -/
theorem Lasts.mono {φ : Phase} (h : φ.Lasts P n) {m : Nat} (hm : m ≤ n) : φ.Lasts P m := by
  cases φ with
  | connecting rest => exact Dialogue.Lasts.mono h (fun _ => id) hm
  | cycling a rest => exact Dialogue.Lasts.mono h (fun _ => id) hm
  | resting rest => exact Dialogue.Lasts.mono h (fun _ => id) hm
  | crashed =>
    have hcause : (∃ b, P b) ∨ n = 0 := h
    exact hcause.imp_right fun hn => Nat.eq_zero_of_le_zero (hm.trans_eq hn)
  | _ => exact trivial

/-- What is asked in a phase in which a worker breaks down has broken off. -/
theorem Lasts.of_broken {φ : Phase} (h : φ.Lasts P n) (hbroken : φ.Broken) :
    Phase.crashed.Lasts P n := by
  have hreason {b : Breakdown} (hb : P b ∨ b = .outOfRounds ∧ n = 0) : (∃ b, P b) ∨ n = 0 :=
    hb.imp (fun hb => ⟨b, hb⟩) And.right
  unfold Broken at hbroken
  split at hbroken
  · exact hreason h
  · exact hreason h
  · exact hreason h
  · exact hbroken.elim

end Phase

/-- A step keeps this up with one answer less. -/
theorem Bench.Step.lasts {p : Plan} {stopped : Bool} {b b' : Bench} {d : Option Deed} {n : Nat}
    (step : Step p stopped b b' d) (hn : n ≤ p.rounds)
    (h : b.worker.phase.Lasts (TooLong p.waits) n) :
    b'.worker.phase.Lasts (TooLong p.waits) (n - 1) := by
  have hless : n - 1 ≤ n := Nat.sub_le n 1
  have hrest : p.rest.Lasts (TooLong p.waits) (n - 1) := lasts_pauseSeconds List.mem_cons_self
  cases step with
  | idle => exact h.mono hless
  | answered q hq =>
    obtain ⟨_, _, hphase, rfl⟩ | ⟨_, _, _, hphase, rfl⟩ | ⟨_, _, hphase, rfl⟩ :=
      Phase.question?_cases hq
    all_goals
      rw [hphase] at h
      exact h _
  | broke hbroken => exact (h.of_broken hbroken).mono hless
  | announced a hphase =>
    have hcycle := p.settings.lasts_processAccount a.path p.workflow p.rounds
    exact hcycle.mono (fun _ hb => hb.mono (List.subset_cons_self _ _)) (Nat.le_trans hless hn)
  | counted a failure hphase =>
    show (if _ then Phase.moving a else .resting p.rest).Lasts _ _
    split
    · exact trivial
    · exact hrest
  | moved a files hphase => exact hrest
  | _ => exact trivial

namespace Fleet

variable {p : Plan} {f : Fleet} {n : Nat}

/-- So does an incident, unless a worker breaks down for reasons outside. -/
theorem lasts_after {B : Nat → Prop} (x : Incident) (hn : n ≤ p.rounds)
    (h : ∀ i w, f.workers[i]? = some w → B i ∨ w.phase.Lasts (TooLong p.waits) n) :
    ∀ i w, (f.afterIncident p x).workers[i]? = some w →
      (B i ∨ x = .breakdown i) ∨ w.phase.Lasts (TooLong p.waits) (n - 1) := by
  intro i w' hw'
  obtain ⟨w, hw, hfate⟩ | ⟨run, serial, rfl⟩ := fate_or_recruit hw'
  · obtain hbefore | hlasts := h i w hw
    · exact .inl (.inl hbefore)
    · exact hfate.keeps
        (P := fun w => (B i ∨ x = .breakdown i) ∨ w.phase.Lasts (TooLong p.waits) (n - 1))
        (.inr (hlasts.mono (Nat.sub_le n 1))) (fun step => .inr (step.lasts hn hlasts))
        fun hx => .inl (.inr hx)
  · exact .inr fun _ => trivial

/-- So do all incidents together. -/
theorem lasts_afterIncidents {B : Nat → Prop} (xs : List Incident) (hn : n ≤ p.rounds)
    (h : ∀ i w, f.workers[i]? = some w → B i ∨ w.phase.Lasts (TooLong p.waits) n) :
    ∀ i w, (f.afterIncidents p xs).workers[i]? = some w →
      (B i ∨ .breakdown i ∈ xs) ∨ w.phase.Lasts (TooLong p.waits) (n - xs.length) := by
  induction xs generalizing f n B with
  | nil => exact fun i w hw => (h i w hw).imp_left .inl
  | cons x xs ih =>
    intro i w hw
    refine (ih (by omega) (lasts_after x hn h) i w hw).imp (fun hbroke => ?_) fun hlasts => ?_
    · rw [List.mem_cons, eq_comm (a := Incident.breakdown i), ← or_assoc]
      exact hbroke
    · rw [Nat.sub_sub, Nat.add_comm] at hlasts
      exact hlasts

/-- A worker breaks down for reasons outside, or at a wait that is too long, unless there were as
many incidents as there are rounds. -/
theorem reason_of_crashed {xs : List Incident} {i : Nat} {w : Worker}
    (hw : (afterIncidents p {} xs).workers[i]? = some w) (hcrashed : w.phase = .crashed) :
    .breakdown i ∈ xs ∨ (∃ x ∈ p.waits, ¬ Waitable x) ∨ p.rounds ≤ xs.length := by
  have hnobody (i : Nat) (w : Worker) (hw : ({} : Fleet).workers[i]? = some w) : False :=
    List.not_mem_nil (List.mem_of_getElem? hw)
  obtain (hnever | houtside) | hlasts := lasts_afterIncidents (B := fun _ => False) xs
    (Nat.le_refl p.rounds) (fun i w hw => (hnobody i w hw).elim) i w hw
  · exact hnever.elim
  · exact .inl houtside
  · rw [hcrashed] at hlasts
    obtain ⟨b, -, hlong⟩ | hnone := hlasts
    · exact .inr (.inl hlong)
    · exact .inr (.inr (Nat.sub_eq_zero_iff_le.1 hnone))

/-- Whose work is over stays in the fleet as it is. -/
theorem mem_afterIncidents {xs : List Incident} {w : Worker} (hw : w ∈ f.workers)
    (hover : w.phase.isOver = true) : w ∈ (f.afterIncidents p xs).workers := by
  refine incidents_induction (I := fun g => w ∈ g.workers) (P := fun _ => True)
    (fun g x _ hg => ?_) hw fun _ _ => trivial
  cases g.course p x with
  | still workers => exact workers ▸ hg
  | @worked i v v' hv turns workers =>
    rw [workers]
    obtain ⟨j, hj⟩ := List.mem_iff_getElem?.1 hg
    by_cases hij : i = j
    · obtain rfl : v = w := Option.some.inj (hv.symm.trans (hij ▸ hj))
      rw [turns.isOver hover, set_of_getElem? hv]
      exact hg
    · exact List.mem_of_getElem? (i := j) (by rw [List.getElem?_set_ne hij, hj])
  | started _ workers => exact workers ▸ List.mem_append_left _ hg

/-- Take a fleet that was never stopped. A worker whose work is over is said to be at work just if
it broke down. When the work of all is over, the run is completed just if nobody broke down.
Somebody who did is never replaced: however the fleet goes on without being stopped, the run is said
to be under way, and no other one can be started. And a worker breaks down only for reasons outside,
at a wait that is too long, or after as many incidents as there are rounds. -/
theorem completed_unless_broken_down (p : Plan) (before : List Incident)
    (hbefore : ∀ x ∈ before, x.isStop = false) :
    let f := afterIncidents p {} before
    (∀ w ∈ f.workers, w.phase.isOver = true →
        (w.progress.running = true ↔ w.phase = .crashed)) ∧
      (f.state ≠ .idle → (∀ w ∈ f.workers, w.phase.isOver = true) →
        (f.status.2.state = .completed ↔ ∀ w ∈ f.workers, w.phase ≠ .crashed)) ∧
      (∀ w ∈ f.workers, w.phase = .crashed →
        ∀ xs : List Incident, (∀ x ∈ xs, x.isStop = false) →
          let g := f.afterIncidents p xs
          w ∈ g.workers ∧ g.run = f.run ∧ g.status.2.state = .running ∧
            ∀ serials resume hitches,
              (g.start serials resume hitches).2 = .error .alreadyRunning) ∧
      (∀ i w, f.workers[i]? = some w → w.phase = .crashed →
        .breakdown i ∈ before ∨ (∃ x ∈ p.waits, ¬ Waitable x) ∨ p.rounds ≤ before.length) := by
  intro f
  have hf : f.Consecutive := consecutive_empty.afterIncidents hbefore
  refine ⟨fun w hw hover => ?_, fun hbegun hover => ⟨fun hcompleted w hw => ?_, fun hnone => ?_⟩,
    fun w hw hcrashed xs hxs => ?_, fun i w hw hcrashed => reason_of_crashed hw hcrashed⟩
  · rw [(hf.candid w hw).running_iff, ne_eq, Phase.ended_iff hover, not_not]
  · have hended : w.phase = .ended := (Finished.of_completed hf hcompleted).ended w hw
    exact (Phase.ended_iff (hover w hw)).1 hended
  · have hended : ∀ w ∈ f.workers, w.phase = .ended :=
      fun w hw => (Phase.ended_iff (hover w hw)).2 (hnone w hw)
    have hfinished : f.Finished := ⟨hended, hf.free hended, hbegun⟩
    show f.refresh.state = .completed
    rw [hfinished.refresh_eq]
  · intro g
    have hg : g.Consecutive := hf.afterIncidents hxs
    have hover : w.phase.isOver = true := by
      rw [hcrashed]
      rfl
    have hmem : w ∈ g.workers := mem_afterIncidents hw hover
    have hunended : w.phase ≠ .ended := fun hend => (Phase.ended_iff hover).1 hend hcrashed
    have hrunning : w.progress.running = true := (hg.candid w hmem).running_iff.2 hunended
    -- It belongs to the last run both before and after the incidents.
    have hrun : g.run = f.run := (hg.run_eq hmem hunended).symm.trans (hf.run_eq hw hunended)
    have hrefused (serials : List String) (resume : Bool) (hitches : List (Option Hitch)) :
        (g.beginStart serials resume hitches).2 = .error .alreadyRunning :=
      (hg.refused_iff serials resume hitches).2 ⟨w, hmem, hrunning⟩
    refine ⟨hmem, hrun, ?_, fun serials resume hitches => ?_⟩
    · exact (start_refused_iff g [] false []).1 (hrefused [] false [])
    · rw [start_snd]
      exact hrefused serials resume hitches

/-- Marking and loading do not depend on anything else of a plan than how it keeps its queue. -/
theorem afterAll_oneMarked_of_queue {p : Plan}
    (hp : p.settings.queue = promptPlan.settings.queue) : afterAll p {} oneMarked = twoWaiting := by
  rw [← afterAll_oneMarked]
  simp only [afterAll, oneMarked, List.foldl_cons, List.foldl_nil, after, hp]

/-- A plan with a wait after the closing of the game that is longer than any length of time. -/
def endlessPlan : Plan where
  settings :=
    { promptPlan.settings with
      timing := { promptPlan.settings.timing with appCloseWait := 1e300 } }
  workflow := promptPlan.workflow
  rounds := 1000

/-- Two accounts are left, and one device begins with the first of them. -/
def oneBreaksDown : List Incident := (oneMarked ++ oneDevice).map .event

/-- The fleet after that. -/
theorem afterIncidents_oneBreaksDown : afterIncidents endlessPlan {} oneBreaksDown =
    twoWaiting.afterAll endlessPlan oneDevice := by
  rw [oneBreaksDown, afterIncidents_events, afterAll_append,
    afterAll_oneMarked_of_queue (p := endlessPlan) rfl]

/-- The worker of the one device breaks down, at a wait that is too long. Somebody looks, fails to
start another device, and the worker is given the chance to act; the run is still under way. -/
theorem one_device_breaks_down :
    let f := afterIncidents endlessPlan {} oneBreaksDown
    let xs : List Incident := [.event .look, .event (.start ["two"] false), .event (.act 0)]
    let g := f.afterIncidents endlessPlan xs
    (∀ w ∈ f.workers, w.phase.isOver = true) ∧ f.status.2.state ≠ .completed ∧
      g.status.2.state = .running ∧ (g.start ["two"] false).2 = .error .alreadyRunning ∧
      ∃ x ∈ endlessPlan.waits, ¬ Waitable x := by
  intro f xs g
  have hf : f = twoWaiting.afterAll endlessPlan oneDevice := afterIncidents_oneBreaksDown
  have hbefore : ∀ x ∈ oneBreaksDown, x.isStop = false := by decide +kernel
  have hxs : ∀ x ∈ xs, x.isStop = false := by decide +kernel
  have hbegun : f.state ≠ .idle := by
    rw [hf]
    decide +kernel
  have hover : ∀ w ∈ f.workers, w.phase.isOver = true := by
    rw [hf]
    decide +kernel
  have hrunning : ∃ w ∈ f.workers, w.progress.running = true := by
    rw [hf]
    decide +kernel
  have houtside (i : Nat) : .breakdown i ∉ oneBreaksDown := by
    intro hi
    obtain ⟨e, -, he⟩ := List.mem_map.1 hi
    exact nomatch he
  obtain ⟨hcandid, hends, hstays, hcause⟩ :=
    completed_unless_broken_down endlessPlan oneBreaksDown hbefore
  obtain ⟨w, hw, hwrunning⟩ := hrunning
  have hcrashed : w.phase = .crashed := (hcandid w hw (hover w hw)).1 hwrunning
  obtain ⟨-, -, hstate, hrefused⟩ := hstays w hw hcrashed xs hxs
  obtain ⟨i, hi⟩ := List.mem_iff_getElem?.1 hw
  obtain hlong | hrounds := (hcause i w hi hcrashed).resolve_left (houtside i)
  · refine ⟨hover, fun hcompleted => ?_, hstate, hrefused _ _ _, hlong⟩
    exact (hends hbegun hover).1 hcompleted w hw hcrashed
  · exact absurd hrounds (by decide +kernel)

/-- No stop was asked for and the work of all workers is over, but the run is not completed, and one
of them is still said to be at work. -/
theorem long_wait_never_completes :
    let f := afterIncidents endlessPlan {} oneBreaksDown
    (∀ x ∈ oneBreaksDown, x.isStop = false) ∧ (∀ w ∈ f.workers, w.phase.isOver = true) ∧
      (∃ w ∈ f.workers, w.progress.running = true) ∧ f.status.2.state = .running ∧
      (f.start ["two"] false).2 = .error .alreadyRunning := by
  intro f
  have hf : f = twoWaiting.afterAll endlessPlan oneDevice := afterIncidents_oneBreaksDown
  rw [hf]
  decide +kernel

end Fleet

end Autoplay
