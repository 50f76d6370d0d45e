import Autoplay.Proofs.Fleet.Holding

/-!
# Incidents, and runs one after the other

What happens to a fleet is an event, or that a worker breaks down while it waits for an answer, for
reasons that lie outside, or that a start is kept from starting a worker. `Fleet.course` says once
what an incident can do to the workers and to the state of a fleet, and `Fleet.fate` what becomes of
one of the workers. The main statement, `Separate.after`, draws the conclusion for the runs: when a
run begins, the workers of all others have come to their end, but for those of runs in which a stop
has ended or a start gave up. In a fleet in which that never happens, the runs do not overlap
(`Consecutive.after`): everyone is said to be at work just until the end is reached, and the fleet
is completed only when all have reached it.
-/

namespace Autoplay

/-- Something that happens to a fleet, breakdowns for outside reasons included. -/
inductive Incident where
  /-- An event. -/
  | event (e : FleetEvent)
  /-- A worker that waits for an answer breaks down. -/
  | breakdown (i : Nat)
  /-- A run is started as far as nothing keeps its workers from being started. -/
  | attempt (serials : List String) (resume : Bool) (hitches : List (Option Hitch))
  /-- A start that was refused a worker gives up. Until then only the workers go on, as others have
  to wait for the start; what is said of all incidents holds wherever this one stands. -/
  | giveUp

namespace Incident

/-- Whether it is an action of a stop, or of a start that gives up. -/
def isStop : Incident → Bool
  | .event .beginStop => true
  | .event .endStop => true
  | .giveUp => true
  | _ => false

/-- Whether the fleet is idle after it, wherever it stood. -/
def idles : Incident → Bool
  | .event .endStop => true
  | .giveUp => true
  | _ => false

/-- Whether a run may begin by it. -/
def isStart : Incident → Bool
  | .event (.start _ _) => true
  | .attempt _ _ _ => true
  | _ => false

/-- Whether others call the queue. -/
def isCall : Incident → Bool
  | .event e => e.isCall
  | _ => false

/-- Whether it is something that a worker does, or that happens to one. -/
def isWork : Incident → Bool
  | .event (.act _) => true
  | .event (.answer _ _) => true
  | .breakdown _ => true
  | _ => false

/-- Whether it is the next action of a worker. -/
def isActOf (i : Nat) : Incident → Bool
  | .event (.act j) => j = i
  | _ => false

/-- After two incidents only is a fleet idle, wherever it stood. -/
theorem idles_iff {x : Incident} : x.idles = true ↔ x = .event .endStop ∨ x = .giveUp := by
  constructor
  · intro h
    cases x with
    | event e =>
      cases e with
      | endStop => exact .inl rfl
      | _ => exact nomatch h
    | giveUp => exact .inr rfl
    | breakdown | attempt => exact nomatch h
  · rintro (rfl | rfl) <;> rfl

/-- What is no action of a stop leaves the fleet where it stands. -/
theorem idles_eq_false {x : Incident} (h : x.isStop = false) : x.idles = false := by
  refine Bool.eq_false_iff.2 fun hidles => ?_
  obtain rfl | rfl := idles_iff.1 hidles <;> exact nomatch h

/-- No run begins by what a worker does. -/
theorem isStart_eq_false {x : Incident} (h : x.isWork = true) : x.isStart = false := by
  cases x with
  | event e =>
    cases e with
    | start => exact nomatch h
    | _ => rfl
  | attempt => exact nomatch h
  | breakdown | giveUp => rfl

end Incident

namespace Fleet

/-- A worker that waits for an answer breaks down. -/
def breakDown (f : Fleet) (i : Nat) : Fleet :=
  match f.workers[i]? with
  | none => f
  | some w => if w.phase.question?.isSome then f.enter i .crashed else f

/-- The fleet after an incident. -/
def afterIncident (p : Plan) (f : Fleet) : Incident → Fleet
  | .event e => f.after p e
  | .breakdown i => f.breakDown i
  | .attempt serials resume hitches => (f.beginStart serials resume hitches).1
  | .giveUp => f.giveUp

/-- The fleet after some incidents. -/
def afterIncidents (p : Plan) (f : Fleet) (xs : List Incident) : Fleet :=
  xs.foldl (afterIncident p) f

/-- Some incidents and then others. -/
theorem afterIncidents_append (p : Plan) (f : Fleet) (xs ys : List Incident) :
    f.afterIncidents p (xs ++ ys) = (f.afterIncidents p xs).afterIncidents p ys :=
  List.foldl_append

/-- If all incidents are events, they are what happens. -/
theorem afterIncidents_events (p : Plan) (f : Fleet) (es : List FleetEvent) :
    f.afterIncidents p (es.map .event) = f.afterAll p es :=
  List.foldl_map

/-- What each incident keeps is kept over all of them. -/
theorem incidents_induction {p : Plan} {I : Fleet → Prop} {P : Incident → Prop}
    (step : ∀ f x, P x → I f → I (f.afterIncident p x)) {f : Fleet} (hf : I f)
    {xs : List Incident} (hxs : ∀ x ∈ xs, P x) : I (f.afterIncidents p xs) := by
  induction xs generalizing f with
  | nil => exact hf
  | cons x xs ih =>
    have hx : P x := hxs x List.mem_cons_self
    exact ih (step f x hx hf) fun y hy => hxs y (List.mem_cons_of_mem _ hy)

/-- A worker that breaks down waits for an answer, and nothing else changes. -/
theorem breakDown_cases (f : Fleet) (i : Nat) : f.breakDown i = f ∨
    ∃ w q, f.workers[i]? = some w ∧ w.phase.question? = some q ∧
      f.breakDown i = { f with workers := f.workers.set i { w with phase := .crashed } } := by
  cases hw : f.workers[i]? with
  | none => exact .inl (by simp only [breakDown, hw])
  | some w =>
    cases hq : w.phase.question? with
    | none =>
      refine .inl ?_
      simp only [breakDown, hw, hq, Option.isSome_none, Bool.false_eq_true, if_false]
    | some q =>
      refine .inr ⟨w, q, rfl, hq, ?_⟩
      simp only [breakDown, hw, hq, Option.isSome_some, if_true, enter]

/-- A worker that gets an answer waits for it, and nothing else changes. -/
theorem answer_cases (p : Plan) (f : Fleet) (i : Nat) (reply : (q : Request) → q.Answer) :
    f.after p (.answer i reply) = f ∨
      ∃ w q, f.workers[i]? = some w ∧ w.phase.question? = some q ∧
        f.after p (.answer i reply) =
          { f with
            workers := f.workers.set i
              { w with phase := q.next (q.request.truthful (f.isStopped w.run) reply) } } := by
  cases hw : f.workers[i]? with
  | none => exact .inl (by simp only [after, hw])
  | some w =>
    cases hq : w.phase.question? with
    | none => exact .inl (by simp only [after, hw, hq])
    | some q =>
      refine .inr ⟨w, q, rfl, hq, ?_⟩
      simp only [after, hw, hq, enter]

end Fleet

/-! ## What becomes of a worker -/

/-- A worker waits for an answer only before its end. -/
theorem Phase.ne_of_question? {φ φ' : Phase} {q : Question} (h : φ.question? = some q)
    (hφ' : φ'.question? = none) : φ ≠ φ' := by
  rintro rfl
  exact nomatch h.symm.trans hφ'

/-- A worker is said to be at work just until it comes to its end. -/
def Worker.Candid (w : Worker) : Prop := w.progress.running = false ↔ w.phase = .ended

/-- Said the other way round. -/
theorem Worker.Candid.running_iff {w : Worker} (h : w.Candid) :
    w.progress.running = true ↔ w.phase ≠ .ended := by
  rw [← Bool.not_eq_false]
  exact not_congr h

/-- What becomes of a worker in one incident. -/
structure Worker.Turns (w w' : Worker) : Prop where
  /-- It stays in its run. -/
  run : w'.run = w.run
  /-- It is not said to be at work again. -/
  running : w'.progress.running = true → w.progress.running = true
  /-- If it was said to be at work just until its end, it still is. -/
  candid : w.Candid → w'.Candid
  /-- It does nothing after its end. -/
  isOver : w.phase.isOver = true → w' = w

namespace Worker.Turns

/-- At first it is the same. -/
theorem refl (w : Worker) : w.Turns w :=
  ⟨rfl, id, id, fun _ => rfl⟩

/-- Before its end it may get on to another phase that is not its end. -/
theorem goesOn {w w' : Worker} (hrun : w'.run = w.run)
    (hrunning : w'.progress.running = w.progress.running) (hphase : w.phase ≠ .ended)
    (hphase' : w'.phase ≠ .ended) (hover : w.phase.isOver = true → w' = w) : w.Turns w' := by
  refine ⟨hrun, fun h => hrunning ▸ h, fun hcandid => ?_, hover⟩
  constructor
  · exact fun hrest => absurd (hcandid.1 (hrunning ▸ hrest)) hphase
  · exact fun hend => absurd hend hphase'

end Worker.Turns

/-- What becomes of a worker in a step. -/
theorem Bench.Step.turns {p : Plan} {stopped : Bool} {b b' : Bench} {d : Option Deed}
    (step : Step p stopped b b' d) : b.worker.Turns b'.worker := by
  have hover : b.worker.phase.isOver = true → b'.worker = b.worker :=
    fun h => congrArg Bench.worker (step.eq_of_isOver h).1
  -- Before and after the step it is in a phase that is decided to be another one than its end.
  have goesOn {φ : Phase} (hphase : b.worker.phase = φ) (hφ : decide (φ = .ended) = false)
      (hrunning : b'.worker.progress.running = b.worker.progress.running)
      (hφ' : decide (b'.worker.phase = .ended) = false) : b.worker.Turns b'.worker :=
    .goesOn step.run_eq hrunning (hphase ▸ of_decide_eq_false hφ) (of_decide_eq_false hφ') hover
  cases step with
  | idle => exact .refl _
  | answered q hq =>
    obtain ⟨_, _, hphase, rfl⟩ | ⟨_, _, _, hphase, rfl⟩ | ⟨_, _, hphase, rfl⟩ :=
      Phase.question?_cases hq
    all_goals exact goesOn hphase rfl rfl rfl
  | unreachable _ hphase | left hphase =>
    exact ⟨rfl, nofun, fun _ => ⟨fun _ => rfl, fun _ => rfl⟩, hover⟩
  | broke hbroken =>
    have hunended : b.worker.phase ≠ .ended := by
      intro hend
      rw [hend] at hbroken
      exact hbroken
    exact goesOn rfl (decide_eq_false hunended) rfl rfl
  | counted a failure hphase =>
    refine goesOn hphase rfl ?_ ?_
    · cases failure <;> rfl
    · show decide ((if _ then Phase.moving a else .resting p.rest) = .ended) = false
      split <;> rfl
  | connected hphase | going hphase _ | stopping hphase _ | took _ hphase _ | exhausted hphase _
  | announced _ hphase | finished _ _ hphase | aborted _ hphase | marked _ _ hphase
  | moved _ _ hphase | rested hphase | stoppedResting _ hphase =>
    exact goesOn hphase rfl rfl rfl

namespace Fleet

/-! ## What an incident can do -/

/-- What an incident can do to the workers, the runs and the state of a fleet. -/
inductive Course (f : Fleet) (x : Incident) (f' : Fleet) : Prop where
  /-- The workers stay as they are. -/
  | still (workers : f'.workers = f.workers) (run : f'.run = f.run)
      (stopped : f.stopped ⊆ f'.stopped) (state : x.idles = false → f.Notices f'.state) :
      Course f x f'
  /-- A worker does something, or breaks down. -/
  | worked {i : Nat} {w w' : Worker} (hw : f.workers[i]? = some w) (turns : w.Turns w')
      (workers : f'.workers = f.workers.set i w') (run : f'.run = f.run)
      (stopped : f'.stopped = f.stopped) (state : f'.state = f.state) : Course f x f'
  /-- A run is started. -/
  | started {serials : List String} (hx : x.isStart = true)
      (workers : f'.workers = f.workers ++ serials.map (recruit (f.run + 1)))
      (run : f'.run = f.run + 1) (stopped : f'.stopped = f.stopped)
      (free : f.state = .running → f.isBusy = false) (state : f'.state = .running) : Course f x f'

/-- Every incident does one of these things. -/
theorem course (p : Plan) (f : Fleet) (x : Incident) : f.Course x (f.afterIncident p x) := by
  cases x with
  | event e =>
    have hchange := f.after_change p e
    generalize f.deed e = d at hchange
    cases hchange with
    | still _ workers run stopped state =>
      refine .still workers run stopped fun hx => state ?_
      rintro rfl
      exact nomatch hx
    | called _ _ workers run stopped state =>
      exact .still workers run (stopped ▸ fun _ h => h) fun _ => .inl state
    | worked hw step _ workers run stopped state =>
      exact .worked hw step.turns workers run stopped state
    | started he _ workers run stopped free state =>
      subst he
      exact .started rfl workers run stopped free state
  | attempt serials resume hitches =>
    obtain ⟨state, e, hnotices, -, hfails⟩ | ⟨hfree, hbegins⟩ :=
      f.beginStart_cases serials resume hitches
    · rw [afterIncident, hfails]
      exact .still rfl rfl (fun _ h => h) fun _ => hnotices
    · rw [afterIncident, hbegins]
      exact .started rfl rfl rfl rfl hfree rfl
  | giveUp => exact .still rfl rfl (fun _ h => List.mem_cons_of_mem _ h) nofun
  | breakdown i =>
    obtain hsame | ⟨w, q, hw, hq, hbroken⟩ := f.breakDown_cases i
    · rw [afterIncident, hsame]
      exact .still rfl rfl (fun _ h => h) fun _ => .inl rfl
    · rw [afterIncident, hbroken]
      have hturns : w.Turns { w with phase := .crashed } := by
        refine .goesOn rfl rfl (Phase.ne_of_question? hq rfl) nofun fun hover => ?_
        obtain ⟨_, _, hphase, -⟩ | ⟨_, _, _, hphase, -⟩ | ⟨_, _, hphase, -⟩ :=
          Phase.question?_cases hq
        all_goals
          rw [hphase] at hover
          exact nomatch hover
      exact .worked hw hturns rfl rfl rfl rfl

/-- Where an incident makes a fleet idle, it is. -/
theorem idle_of_idles {p : Plan} {f : Fleet} {x : Incident} (hx : x.idles = true) :
    (f.afterIncident p x).state = .idle := by
  obtain rfl | rfl := Incident.idles_iff.1 hx <;> rfl

/-- The number of the last run only grows. -/
theorem run_le_afterIncident (p : Plan) (f : Fleet) (x : Incident) :
    f.run ≤ (f.afterIncident p x).run := by
  cases f.course p x with
  | still _ run => exact Nat.le_of_eq run.symm
  | worked _ _ _ run => exact Nat.le_of_eq run.symm
  | started _ _ run => exact run ▸ Nat.le_succ _

/-- So it does over all incidents. -/
theorem run_le_afterIncidents (p : Plan) (f : Fleet) (xs : List Incident) :
    f.run ≤ (f.afterIncidents p xs).run := by
  induction xs generalizing f with
  | nil => exact Nat.le_refl _
  | cons x xs ih => exact Nat.le_trans (f.run_le_afterIncident p x) (ih _)

/-- If no other run has begun by the end of some incidents, none has begun after the first one. -/
theorem run_eq_of_afterIncidents {p : Plan} {f : Fleet} {x : Incident} {xs : List Incident}
    (hrun : (f.afterIncidents p (x :: xs)).run = f.run) :
    (f.afterIncident p x).run = f.run := by
  have hfirst : f.run ≤ (f.afterIncident p x).run := f.run_le_afterIncident p x
  have hothers : (f.afterIncident p x).run ≤ (f.afterIncidents p (x :: xs)).run :=
    run_le_afterIncidents p _ xs
  omega

/-! ## What becomes of one worker -/

/-- A worker stays as it is in what no worker does. -/
theorem worker_stays {p : Plan} {f : Fleet} {i : Nat} {w : Worker} (hw : f.workers[i]? = some w)
    {x : Incident} (hx : x.isWork = false) : (f.afterIncident p x).workers[i]? = some w := by
  have hlt : i < f.workers.length := (List.getElem?_eq_some_iff.1 hw).1
  cases x with
  | breakdown j => exact absurd hx.symm Bool.false_ne_true
  | attempt serials resume hitches =>
    obtain ⟨state, e, -, -, hfails⟩ | ⟨-, hbegins⟩ := f.beginStart_cases serials resume hitches
    · rw [afterIncident, hfails]
      exact hw
    · rw [afterIncident, hbegins]
      exact (List.getElem?_append_left hlt).trans hw
  | giveUp => exact hw
  | event e =>
    cases e with
    | act j | answer j reply => exact absurd hx.symm Bool.false_ne_true
    | start serials resume =>
      show (f.start serials resume).1.workers[i]? = some w
      obtain ⟨state, e, -, hfails⟩ | ⟨-, hbegins⟩ := f.start_cases serials resume
      · rw [hfails]
        exact hw
      · rw [hbegins]
        exact (List.getElem?_append_left hlt).trans hw
    | beginStop =>
      show f.beginStop.1.workers[i]? = some w
      obtain ⟨state, -, hrefresh⟩ := f.refresh_eq
      unfold beginStop
      simp only [hrefresh]
      split <;> exact hw
    | look =>
      show f.refresh.workers[i]? = some w
      obtain ⟨state, -, hrefresh⟩ := f.refresh_eq
      rw [hrefresh]
      exact hw
    | endStop | files t | call c => exact hw

/-- What becomes of a worker in an incident. -/
inductive Fate (p : Plan) (f : Fleet) (i : Nat) (w : Worker) (x : Incident) : Worker → Prop where
  /-- It stays as it is. -/
  | stays (hx : x.isActOf i = false) : Fate p f i w x w
  /-- It takes its next action. -/
  | acts (hx : x = .event (.act i)) :
      Fate p f i w x (Bench.act p (f.isStopped w.run) ⟨f.queue, f.files, w⟩).worker
  /-- It gets an answer. -/
  | answered {reply : (q : Request) → q.Answer} (hx : x = .event (.answer i reply)) {q : Question}
      (hq : w.phase.question? = some q) :
      Fate p f i w x { w with phase := q.next (q.request.truthful (f.isStopped w.run) reply) }
  /-- It breaks down. -/
  | broke (hx : x = .breakdown i) : Fate p f i w x { w with phase := .crashed }

/-- One of these things becomes of every worker. -/
theorem fate (p : Plan) {f : Fleet} {i : Nat} {w : Worker} (hw : f.workers[i]? = some w)
    (x : Incident) :
    ∃ w', (f.afterIncident p x).workers[i]? = some w' ∧ f.Fate p i w x w' := by
  have hlt : i < f.workers.length := (List.getElem?_eq_some_iff.1 hw).1
  -- What becomes of one worker becomes of this one or of another.
  have becomes {j : Nat} {v v' : Worker} {f' : Fleet} (hv : f.workers[j]? = some v)
      (hworkers : f'.workers = f.workers.set j v') (hfate : j = i → v = w → f.Fate p i w x v')
      (hothers : j ≠ i → x.isActOf i = false) :
      ∃ w', f'.workers[i]? = some w' ∧ f.Fate p i w x w' := by
    rw [hworkers]
    by_cases hj : j = i
    · subst hj
      exact ⟨v', List.getElem?_set_self hlt, hfate rfl (Option.some.inj (hv.symm.trans hw))⟩
    · exact ⟨w, (List.getElem?_set_ne hj).trans hw, .stays (hothers hj)⟩
  cases x with
  | attempt | giveUp => exact ⟨w, worker_stays hw rfl, .stays rfl⟩
  | breakdown j =>
    obtain hsame | ⟨v, q, hv, -, hbroken⟩ := f.breakDown_cases j
    · rw [afterIncident, hsame]
      exact ⟨w, hw, .stays rfl⟩
    · rw [afterIncident, hbroken]
      refine becomes hv rfl (fun hj hvw => ?_) fun _ => rfl
      subst hj hvw
      exact .broke rfl
  | event e =>
    cases e with
    | act j =>
      have hother (hj : j ≠ i) : (Incident.event (.act j)).isActOf i = false := decide_eq_false hj
      show ∃ w', (f.act p j).workers[i]? = some w' ∧ _
      cases hv : f.workers[j]? with
      | none =>
        have hne : j ≠ i := fun hj => Option.some_ne_none w (hw.symm.trans (hj ▸ hv))
        exact ⟨w, by simp only [act, hv, hw], .stays (hother hne)⟩
      | some v =>
        have hworkers : (f.act p j).workers =
            f.workers.set j (Bench.act p (f.isStopped v.run) ⟨f.queue, f.files, v⟩).worker := by
          simp only [act, hv]
        refine becomes hv hworkers (fun hj hvw => ?_) hother
        subst hj hvw
        exact .acts rfl
    | answer j reply =>
      obtain hsame | ⟨v, q, hv, hq, hanswered⟩ := f.answer_cases p j reply
      · rw [afterIncident, hsame]
        exact ⟨w, hw, .stays rfl⟩
      · rw [afterIncident, hanswered]
        refine becomes hv rfl (fun hj hvw => ?_) fun _ => rfl
        subst hj hvw
        exact .answered rfl hq
    | _ => exact ⟨w, worker_stays hw rfl, .stays rfl⟩

/-- What holds of a worker before an incident and after a step of its own, or is why it breaks down,
holds of what becomes of it. -/
theorem Fate.keeps {p : Plan} {f : Fleet} {i : Nat} {w w' : Worker} {x : Incident}
    (h : f.Fate p i w x w') {P : Worker → Prop} (stays : P w)
    (step : ∀ {b d}, Bench.Step p (f.isStopped w.run) ⟨f.queue, f.files, w⟩ b d → P b.worker)
    (broke : x = .breakdown i → P { w with phase := .crashed }) : P w' := by
  cases h with
  | stays => exact stays
  | acts => exact step (Bench.act_step p _ _)
  | @answered reply _ q hq => exact step (.answered q hq reply)
  | broke hx => exact broke hx

/-- A worker after an incident was one before it, or is new. -/
theorem fate_or_recruit {p : Plan} {f : Fleet} {i : Nat} {w' : Worker} {x : Incident}
    (hw' : (f.afterIncident p x).workers[i]? = some w') :
    (∃ w, f.workers[i]? = some w ∧ f.Fate p i w x w') ∨
      ∃ run serial, w' = recruit run serial := by
  cases hw : f.workers[i]? with
  | some w =>
    obtain ⟨v, hv, hfate⟩ := fate p hw x
    obtain rfl : v = w' := Option.some.inj (hv.symm.trans hw')
    exact .inl ⟨w, rfl, hfate⟩
  | none =>
    have hlen : f.workers.length ≤ i := List.getElem?_eq_none_iff.1 hw
    have hlt : i < (f.afterIncident p x).workers.length := (List.getElem?_eq_some_iff.1 hw').1
    cases f.course p x with
    | still workers =>
      rw [workers] at hlt
      exact absurd hlt (Nat.not_lt.2 hlen)
    | worked _ _ workers =>
      rw [workers, List.length_set] at hlt
      exact absurd hlt (Nat.not_lt.2 hlen)
    | started _ workers =>
      rw [workers, List.getElem?_append_right hlen] at hw'
      obtain ⟨serial, -, rfl⟩ := List.mem_map.1 (List.mem_of_getElem? hw')
      exact .inr ⟨_, serial, rfl⟩

/-! ## One run after the other -/

/-- The runs of a fleet overlap only by workers of some of them. -/
structure Separate (overlaps : Nat → Prop) (f : Fleet) : Prop where
  /-- Nobody is the worker of a run to come. -/
  runs : ∀ w ∈ f.workers, w.run ≤ f.run
  /-- Everyone is said to be at work just until the end. -/
  candid : ∀ w ∈ f.workers, w.Candid
  /-- The workers of other former runs have come to their end. -/
  former : ∀ w ∈ f.workers, w.run ≠ f.run → w.phase = .ended ∨ overlaps w.run
  /-- If the fleet is idle, nothing has been started, or the last run is one of them. -/
  idle : f.state = .idle → f.workers = [] ∨ overlaps f.run
  /-- If it is completed, the workers of the last run have come to their end. -/
  completed : f.state = .completed → ∀ w ∈ f.workers, w.run = f.run → w.phase = .ended

namespace Separate

variable {overlaps overlaps' : Nat → Prop} {f : Fleet}

/-- Before any incident. -/
theorem empty : Separate overlaps {} :=
  ⟨fun _ h => absurd h List.not_mem_nil, fun _ h => absurd h List.not_mem_nil,
    fun _ h => absurd h List.not_mem_nil, fun _ => .inl rfl, nofun⟩

/-- If a run may begin, the workers of all others that do not overlap it have come to their end. -/
theorem ended (h : Separate overlaps f) (hfree : f.state = .running → f.isBusy = false) :
    ∀ w ∈ f.workers, w.phase = .ended ∨ overlaps w.run := by
  intro w hw
  by_cases hrun : w.run = f.run
  · cases hstate : f.state with
    | idle =>
      obtain hnone | hlast := h.idle hstate
      · exact absurd (hnone ▸ hw) List.not_mem_nil
      · exact .inr (hrun ▸ hlast)
    | completed => exact .inl (h.completed hstate w hw hrun)
    | running =>
      have hrest := List.any_eq_false.1 (hfree hstate) w (mem_crew.2 ⟨hw, hrun⟩)
      exact .inl ((h.candid w hw).1 (Bool.eq_false_iff.2 hrest))
  · exact h.former w hw hrun

/-- After an incident the same runs may overlap, and the last one if the fleet is idle by it. -/
theorem after (h : Separate overlaps f) {x : Incident}
    (hmore : ∀ run, overlaps run → overlaps' run) (hends : x.idles = true → overlaps' f.run) :
    Separate overlaps' (f.afterIncident p x) := by
  have hcourse := f.course p x
  have hidleAfter : x.idles = true → (f.afterIncident p x).state = .idle := idle_of_idles
  generalize f.afterIncident p x = f' at hcourse hidleAfter ⊢
  cases hcourse with
  | still workers run _ state =>
    refine ⟨workers ▸ run ▸ h.runs, workers ▸ h.candid, workers ▸ run ▸ fun w hw hne =>
      (h.former w hw hne).imp_right (hmore _), fun hidle => ?_, fun hcompleted => ?_⟩
    · rw [workers, run]
      cases hx : x.idles with
      | true => exact .inr (hends hx)
      | false =>
        obtain hsame | ⟨-, -, hstate⟩ := state hx
        · exact (h.idle (hsame.symm.trans hidle)).imp_right (hmore _)
        · exact nomatch hidle.symm.trans hstate
    · rw [workers, run]
      have hx : x.idles = false :=
        Bool.eq_false_iff.2 fun hx => nomatch (hidleAfter hx).symm.trans hcompleted
      obtain hsame | ⟨-, hfree, -⟩ := state hx
      · exact h.completed (hsame.symm.trans hcompleted)
      · intro w hw hrun
        have hrest := List.any_eq_false.1 hfree w (mem_crew.2 ⟨hw, hrun⟩)
        exact (h.candid w hw).1 (Bool.eq_false_iff.2 hrest)
  | @worked i w w' hw turns workers run _ state =>
    have hmem : w ∈ f.workers := List.mem_of_getElem? hw
    -- A worker that has come to its end stays there.
    have hended (hend : w.phase = .ended) : w'.phase = .ended := by
      have hover : w.phase.isOver = true := by rw [hend]; rfl
      rw [turns.isOver hover, hend]
    have hall {P : Worker → Prop} (hnew : P w') (hothers : ∀ v ∈ f.workers, P v) :
        ∀ v ∈ f'.workers, P v := workers ▸ forall_set hnew hothers
    have hformer : ∀ v ∈ f.workers, v.run ≠ f.run → v.phase = .ended ∨ overlaps' v.run :=
      fun v hv hne => (h.former v hv hne).imp_right (hmore _)
    refine ⟨hall ?_ ?_, hall (turns.candid (h.candid w hmem)) h.candid, hall ?_ ?_,
      fun hidle => ?_, fun hcompleted => hall ?_ ?_⟩
    · rw [turns.run, run]
      exact h.runs w hmem
    · rw [run]
      exact h.runs
    · rw [turns.run, run]
      exact fun hne => (hformer w hmem hne).imp_left hended
    · rw [run]
      exact hformer
    · rw [run]
      obtain hnone | hlast := h.idle (state ▸ hidle)
      · exact absurd (hnone ▸ hmem) List.not_mem_nil
      · exact .inr (hmore _ hlast)
    · rw [turns.run, run]
      exact fun hrun => hended (h.completed (state ▸ hcompleted) w hmem hrun)
    · rw [run]
      exact h.completed (state ▸ hcompleted)
  | @started serials _ workers run _ free state =>
    have hcases {w : Worker} (hw : w ∈ f'.workers) := mem_recruits (workers ▸ hw)
    refine ⟨fun w hw => ?_, fun w hw => ?_, fun w hw hne => ?_, fun hidle => ?_,
      fun hcompleted => ?_⟩
    · rw [run]
      obtain hold | ⟨serial, rfl⟩ := hcases hw
      · exact Nat.le_succ_of_le (h.runs w hold)
      · exact Nat.le_refl _
    · obtain hold | ⟨serial, rfl⟩ := hcases hw
      · exact h.candid w hold
      · exact ⟨nofun, nofun⟩
    · obtain hold | ⟨serial, rfl⟩ := hcases hw
      · exact (h.ended free w hold).imp_right (hmore _)
      · exact absurd run.symm hne
    · exact nomatch hidle.symm.trans state
    · exact nomatch hcompleted.symm.trans state

end Separate

/-- The runs of a fleet do not overlap. -/
structure Consecutive (f : Fleet) : Prop where
  /-- Nobody is the worker of a run to come. -/
  runs : ∀ w ∈ f.workers, w.run ≤ f.run
  /-- Everyone is said to be at work just until the end. -/
  candid : ∀ w ∈ f.workers, w.Candid
  /-- The workers of former runs have come to their end. -/
  former : ∀ w ∈ f.workers, w.run ≠ f.run → w.phase = .ended
  /-- Nothing has been started if the fleet is idle. -/
  idle : f.state = .idle → f.workers = []
  /-- Everyone has come to an end if it is completed. -/
  completed : f.state = .completed → ∀ w ∈ f.workers, w.phase = .ended

/-- The runs of a fleet do not overlap if none of them may. -/
theorem consecutive_iff {f : Fleet} : f.Consecutive ↔ Separate (fun _ => False) f := by
  constructor
  · intro h
    exact ⟨h.runs, h.candid, fun w hw hrun => .inl (h.former w hw hrun),
      fun hidle => .inl (h.idle hidle),
      fun hcompleted w hw _ => h.completed hcompleted w hw⟩
  · intro h
    have hformer : ∀ w ∈ f.workers, w.run ≠ f.run → w.phase = .ended :=
      fun w hw hrun => (h.former w hw hrun).resolve_right id
    refine ⟨h.runs, h.candid, hformer, fun hidle => (h.idle hidle).resolve_right id,
      fun hcompleted w hw => ?_⟩
    by_cases hrun : w.run = f.run
    · exact h.completed hcompleted w hw hrun
    · exact hformer w hw hrun

/-- Before any incident. -/
theorem consecutive_empty : Consecutive {} := consecutive_iff.2 .empty

namespace Consecutive

variable {f : Fleet}

/-- If nobody is said to be at work, everyone has come to an end. -/
theorem ended (h : f.Consecutive) (hfree : f.state = .running → f.isBusy = false) :
    ∀ w ∈ f.workers, w.phase = .ended :=
  fun w hw => ((consecutive_iff.1 h).ended hfree w hw).resolve_right id

/-- An incident that does not make the fleet idle keeps the runs apart. -/
theorem after {p : Plan} {x : Incident} (h : f.Consecutive) (hx : x.idles = false) :
    (f.afterIncident p x).Consecutive := by
  refine consecutive_iff.2 ((consecutive_iff.1 h).after (fun _ hrun => hrun) fun hidles => ?_)
  exact nomatch hx.symm.trans hidles

/-- So do all incidents together. -/
theorem afterIncidents {p : Plan} (h : f.Consecutive) {xs : List Incident}
    (hxs : ∀ x ∈ xs, x.isStop = false) : (f.afterIncidents p xs).Consecutive :=
  incidents_induction (P := fun x => x.isStop = false)
    (fun _ _ hx h => h.after (Incident.idles_eq_false hx)) h hxs

end Consecutive

end Fleet

end Autoplay
