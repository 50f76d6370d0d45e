import Autoplay.Fleet.Basic
import Autoplay.Proofs.Queue.Calls

/-!
# What happens to a fleet

A fleet changes by events: an action of a worker, the answer to its question, a start, the two
actions of a stop, a look at the state, and changes of the files and calls of the queue by others.
Events come in any order, so a list of them is a run of all workers with some interleaving. What the
workers do with accounts is recorded by deeds. The main statement, `after_change`, says once what an
event can do; everything that is kept over all events follows from it by `Fleet.along_induction`.
-/

namespace Autoplay

/-- The result of a cycle that did not break off: no message is a success. -/
def AccountResult.ofFailure : Option String → AccountResult
  | none => .succeeded
  | some message => .failed message

/-- The answer to a question of a worker: what it asks about the stop is answered truthfully. -/
def Request.truthful (stopped : Bool) (reply : (q : Request) → q.Answer) : (q : Request) → q.Answer
  | .stopRequested => stopped
  | .pause _ => stopped
  | q => reply q

/-- Something that happens to a fleet. -/
inductive FleetEvent where
  /-- A worker takes its next action. -/
  | act (i : Nat)
  /-- A worker that waits for an answer gets it. -/
  | answer (i : Nat) (reply : (q : Request) → q.Answer)
  /-- A run is started. -/
  | start (serials : List String) (resume : Bool)
  /-- The workers are told to stop. -/
  | beginStop
  /-- A stop ends. -/
  | endStop
  /-- Someone looks where the fleet stands. -/
  | look
  /-- Others change the files. -/
  | files (t : FileTree)
  /-- Others call the queue. -/
  | call (c : QueueCall)

/-- Whether others call the queue. -/
def FleetEvent.isCall : FleetEvent → Bool
  | .call _ => true
  | _ => false

/-- Otherwise it is none of their calls. -/
theorem FleetEvent.ne_call {e : FleetEvent} (h : e.isCall = false) (c : QueueCall) :
    e ≠ .call c := by
  rintro rfl
  exact absurd h.symm Bool.false_ne_true

/-- Something that a worker did. -/
inductive Deed where
  /-- The device of a run was there. -/
  | connected (run : Nat) (serial : String)
  /-- An account was handed out. -/
  | took (a : Account)
  /-- The cycle of an account came to its end. -/
  | finished (a : Account) (r : AccountResult)
  /-- An account was marked. -/
  | marked (a : Account) (failure : Option String)
deriving DecidableEq, Repr

namespace Bench

/-- What the next action of a worker is on record as. -/
def deed (b : Bench) : Option Deed :=
  match b.worker.phase with
  | .connecting (.done (.ok ())) => some (.connected b.worker.run b.worker.progress.serial)
  | .taking => b.queue.next.1.map .took
  | .cycling a (.done r) => some (.finished a r)
  | .marking a failure => some (.marked a failure)
  | _ => none

end Bench

namespace Fleet

/-- The fleet after an event. -/
def after (p : Plan) (f : Fleet) : FleetEvent → Fleet
  | .act i => f.act p i
  | .answer i reply =>
    match f.workers[i]? with
    | none => f
    | some w =>
      match w.phase.question? with
      | none => f
      | some q => f.enter i (q.next (q.request.truthful (f.isStopped w.run) reply))
  | .start serials resume => (f.start serials resume).1
  | .beginStop => f.beginStop.1
  | .endStop => f.endStop
  | .look => f.refresh
  | .files t => { f with files := t }
  | .call c => { f with queue := f.queue.call p.settings.queue c }

/-- What an event is on record as. -/
def deed (f : Fleet) : FleetEvent → Option Deed
  | .act i => (f.workers[i]?).bind fun w => Bench.deed ⟨f.queue, f.files, w⟩
  | _ => none

/-- The fleet after some events. -/
def afterAll (p : Plan) (f : Fleet) (es : List FleetEvent) : Fleet := es.foldl (after p) f

/-- The record of some events, the first deed first. -/
def deeds (p : Plan) : Fleet → List FleetEvent → List Deed
  | _, [] => []
  | f, e :: es => (f.deed e).toList ++ deeds p (f.after p e) es

/-- Something holds of each event and the fleet that it happens to. -/
def Along (p : Plan) (P : Fleet → FleetEvent → Prop) : Fleet → List FleetEvent → Prop
  | _, [] => True
  | f, e :: es => P f e ∧ Along p P (f.after p e) es

instance decidableAlong (p : Plan) (P : Fleet → FleetEvent → Prop) [∀ f e, Decidable (P f e)] :
    (f : Fleet) → (es : List FleetEvent) → Decidable (f.Along p P es)
  | _, [] => .isTrue trivial
  | f, e :: es => @instDecidableAnd _ _ _ (decidableAlong p P (f.after p e) es)

end Fleet

/-! ## What an action can do -/

/-- The talk of a worker broke off. -/
def Phase.Broken : Phase → Prop
  | .connecting (.halt _) => True
  | .cycling _ (.halt _) => True
  | .resting (.halt _) => True
  | _ => False

/-- What one action of a worker, or the answer to its question, can do to the queue and the worker,
and what it is on record as. -/
inductive Bench.Step (p : Plan) (stopped : Bool) (b : Bench) : Bench → Option Deed → Prop where
  /-- It waits, or its work is over. -/
  | idle : Step p stopped b b none
  /-- It gets an answer. -/
  | answered (q : Question) (hq : b.worker.phase.question? = some q)
      (reply : (q : Request) → q.Answer) :
      Step p stopped b (b.enter (q.next (q.request.truthful stopped reply))) none
  /-- The device is there. -/
  | connected (h : b.worker.phase = .connecting (.done (.ok ()))) :
      Step p stopped b (b.enter .polling)
        (some (.connected b.worker.run b.worker.progress.serial))
  /-- The device is not there. -/
  | unreachable (e : DeviceError) (h : b.worker.phase = .connecting (.done (.error e))) :
      Step p stopped b
        ((b.report fun s =>
          { s with
            running := false
            lastError := some ("connection failed: " ++ e.message) }).enter .ended) none
  /-- It breaks down. -/
  | broke (h : b.worker.phase.Broken) : Step p stopped b (b.enter .crashed) none
  /-- It is not to stop. -/
  | going (h : b.worker.phase = .polling) (hs : stopped = false) :
      Step p stopped b (b.enter .taking) none
  /-- It is to stop. -/
  | stopping (h : b.worker.phase = .polling) (hs : stopped = true) :
      Step p stopped b (b.enter .leaving) none
  /-- It takes an account. -/
  | took (a : Account) (h : b.worker.phase = .taking) (ha : b.queue.next.1 = some a) :
      Step p stopped b ({ b with queue := b.queue.next.2 }.enter (.announcing a)) (some (.took a))
  /-- There is none left to take. -/
  | exhausted (h : b.worker.phase = .taking) (hn : b.queue.next.1 = none) :
      Step p stopped b ({ b with queue := b.queue.next.2 }.enter .leaving) none
  /-- It says what it has taken. -/
  | announced (a : Account) (h : b.worker.phase = .announcing a) :
      Step p stopped b
        ((b.report fun s => { s with current := some a.id }).enter (.cycling a (p.cycle a))) none
  /-- The cycle comes to its end. -/
  | finished (a : Account) (failure : Option String)
      (h : b.worker.phase = .cycling a (.done (.ofFailure failure))) :
      Step p stopped b (b.enter (.marking a failure)) (some (.finished a (.ofFailure failure)))
  /-- The cycle was told to stop. -/
  | aborted (a : Account) (h : b.worker.phase = .cycling a (.done .aborted)) :
      Step p stopped b (b.enter .leaving) (some (.finished a .aborted))
  /-- It marks the account. -/
  | marked (a : Account) (failure : Option String) (h : b.worker.phase = .marking a failure) :
      Step p stopped b
        ({ b with queue := b.queue.call p.settings.queue (.mark a.id failure) }.enter
          (.counting a failure)) (some (.marked a failure))
  /-- It counts the account. -/
  | counted (a : Account) (failure : Option String) (h : b.worker.phase = .counting a failure) :
      Step p stopped b
        ((b.report fun s => s.count failure).enter
          (if failure.isNone && p.settings.queue.moveOnComplete then .moving a
            else .resting p.rest)) none
  /-- It moves the file of the account away. -/
  | moved (a : Account) (files : FileTree) (h : b.worker.phase = .moving a) :
      Step p stopped b
        ({ b with queue := b.queue.call p.settings.queue (.move b.files a.id), files }.enter
          (.resting p.rest)) none
  /-- It has waited. -/
  | rested (h : b.worker.phase = .resting (.done (.ok ()))) :
      Step p stopped b (b.enter .polling) none
  /-- It was told to stop while it waited. -/
  | stoppedResting (e : Stopped) (h : b.worker.phase = .resting (.done (.error e))) :
      Step p stopped b (b.enter .leaving) none
  /-- It says that its work is over. -/
  | left (h : b.worker.phase = .leaving) :
      Step p stopped b
        ((b.report fun s => { s with running := false, current := none }).enter .ended) none

/-- An action of a worker does one of these things. -/
theorem Bench.act_step (p : Plan) (stopped : Bool) (b : Bench) :
    Step p stopped b (b.act p stopped) b.deed := by
  cases hphase : b.worker.phase with
  | connecting rest =>
    cases rest with
    | done r =>
      cases r with
      | ok u => simpa only [act, deed, hphase] using Step.connected hphase
      | error e => simpa only [act, deed, hphase] using Step.unreachable e hphase
    | halt e =>
      have hbroken : b.worker.phase.Broken := by rw [hphase]; trivial
      simpa only [act, deed, hphase] using Step.broke hbroken
    | ask q next => simpa only [act, deed, hphase] using Step.idle
  | polling =>
    cases stopped with
    | false =>
      simpa only [act, deed, hphase, Bool.false_eq_true, if_false] using Step.going hphase rfl
    | true => simpa only [act, deed, hphase, if_true] using Step.stopping hphase rfl
  | taking =>
    cases hn : b.queue.next.1 with
    | none =>
      have hnext : b.queue.next = (none, b.queue.next.2) := Prod.ext hn rfl
      have hact : b.act p stopped = { b with queue := b.queue.next.2 }.enter .leaving := by
        simp only [act, hphase]
        rw [hnext]
      have hdeed : b.deed = none := by simp only [deed, hphase, hn, Option.map_none]
      rw [hact, hdeed]
      exact .exhausted hphase hn
    | some a =>
      have hnext : b.queue.next = (some a, b.queue.next.2) := Prod.ext hn rfl
      have hact : b.act p stopped = { b with queue := b.queue.next.2 }.enter (.announcing a) := by
        simp only [act, hphase]
        rw [hnext]
      have hdeed : b.deed = some (.took a) := by simp only [deed, hphase, hn, Option.map_some]
      rw [hact, hdeed]
      exact .took a hphase hn
  | announcing a => simpa only [act, deed, hphase] using Step.announced a hphase
  | cycling a rest =>
    cases rest with
    | done r =>
      cases r with
      | succeeded =>
        simpa only [act, deed, hphase, AccountResult.ofFailure] using Step.finished a none hphase
      | failed m =>
        simpa only [act, deed, hphase, AccountResult.ofFailure] using
          Step.finished a (some m) hphase
      | aborted => simpa only [act, deed, hphase] using Step.aborted a hphase
    | halt e =>
      have hbroken : b.worker.phase.Broken := by rw [hphase]; trivial
      simpa only [act, deed, hphase] using Step.broke hbroken
    | ask q next => simpa only [act, deed, hphase] using Step.idle
  | marking a failure =>
    have hact : b.act p stopped =
        { b with queue := b.queue.call p.settings.queue (.mark a.id failure) }.enter
          (.counting a failure) := by
      simp only [act, hphase, AccountQueue.call]
      cases b.queue.markProcessed a.id failure <;> rfl
    have hdeed : b.deed = some (.marked a failure) := by simp only [deed, hphase]
    rw [hact, hdeed]
    exact .marked a failure hphase
  | counting a failure => simpa only [act, deed, hphase] using Step.counted a failure hphase
  | moving a =>
    have hact : b.act p stopped =
        { b with
          queue := b.queue.call p.settings.queue (.move b.files a.id)
          files := (b.queue.moveToDone p.settings.queue b.files a.id).1 }.enter
          (.resting p.rest) := by
      simp only [act, hphase, AccountQueue.call]
      cases (b.queue.moveToDone p.settings.queue b.files a.id).2 <;> rfl
    have hdeed : b.deed = none := by simp only [deed, hphase]
    rw [hact, hdeed]
    exact .moved a _ hphase
  | resting rest =>
    cases rest with
    | done r =>
      cases r with
      | ok u => simpa only [act, deed, hphase] using Step.rested hphase
      | error e => simpa only [act, deed, hphase] using Step.stoppedResting e hphase
    | halt e =>
      have hbroken : b.worker.phase.Broken := by rw [hphase]; trivial
      simpa only [act, deed, hphase] using Step.broke hbroken
    | ask q next => simpa only [act, deed, hphase] using Step.idle
  | leaving => simpa only [act, deed, hphase] using Step.left hphase
  | ended => simpa only [act, deed, hphase] using Step.idle
  | crashed => simpa only [act, deed, hphase] using Step.idle

/-! ## What an event can do -/

namespace Fleet

/-- A state stays as it is, or notices that a run is completed. -/
def Notices (f : Fleet) (state : FleetState) : Prop :=
  state = f.state ∨ f.state = .running ∧ f.isBusy = false ∧ state = .completed

/-- What an event can do to a fleet, and what it is on record as. -/
inductive Change (p : Plan) (f : Fleet) (e : FleetEvent) (f' : Fleet) : Option Deed → Prop where
  /-- Queue and workers stay as they are. -/
  | still (queue : f'.queue = f.queue) (workers : f'.workers = f.workers) (run : f'.run = f.run)
      (stopped : f.stopped ⊆ f'.stopped) (state : e ≠ .endStop → f.Notices f'.state) :
      Change p f e f' none
  /-- Others call the queue. -/
  | called {c : QueueCall} (he : e = .call c) (queue : f'.queue = f.queue.call p.settings.queue c)
      (workers : f'.workers = f.workers) (run : f'.run = f.run) (stopped : f'.stopped = f.stopped)
      (state : f'.state = f.state) : Change p f e f' none
  /-- A worker does something. -/
  | worked {i : Nat} {w : Worker} {b' : Bench} {d : Option Deed} (hw : f.workers[i]? = some w)
      (step : Bench.Step p (f.isStopped w.run) ⟨f.queue, f.files, w⟩ b' d)
      (queue : f'.queue = b'.queue) (workers : f'.workers = f.workers.set i b'.worker)
      (run : f'.run = f.run) (stopped : f'.stopped = f.stopped) (state : f'.state = f.state) :
      Change p f e f' d
  /-- A run is started. -/
  | started {serials : List String} {resume : Bool} (he : e = .start serials resume)
      (queue : f'.queue = prepared f.queue resume)
      (workers : f'.workers = f.workers ++ serials.map (recruit (f.run + 1)))
      (run : f'.run = f.run + 1) (stopped : f'.stopped = f.stopped)
      (free : f.state = .running → f.isBusy = false) (state : f'.state = .running) :
      Change p f e f' none

/-- A look changes the state only. -/
theorem refresh_eq (f : Fleet) : ∃ state, f.Notices state ∧ f.refresh = { f with state } := by
  unfold refresh
  split
  next h => exact ⟨_, .inr ⟨h.1, by simpa using h.2, rfl⟩, rfl⟩
  next => exact ⟨f.state, .inl rfl, rfl⟩

/-- Who looks at an idle fleet notices nothing. -/
theorem refresh_of_idle {f : Fleet} (hidle : f.state = .idle) : f.refresh = f := by
  have hnot : ¬ (f.state = .running ∧ (!f.isBusy) = true) := by
    rintro ⟨hrunning, -⟩
    exact nomatch hidle.symm.trans hrunning
  unfold refresh
  rw [if_neg hnot]

/-- Nor does who looks at a busy one. -/
theorem refresh_of_busy {f : Fleet} (hbusy : f.isBusy = true) : f.refresh = f := by
  have hnot : ¬ (f.state = .running ∧ (!f.isBusy) = true) := by
    rw [hbusy]
    exact fun h => nomatch h.2
  unfold refresh
  rw [if_neg hnot]

/-- If nothing keeps a worker from being started, all of them begin. -/
@[simp]
theorem enlist_nil (serials : List String) : enlist serials [] = (serials, none) := by
  induction serials with
  | nil => rfl
  | cons serial serials ih =>
    rw [enlist, List.tail_nil, ih]
    simp

/-- A start fails early and changes the state at most, or begins a run, unless someone is at work,
with the devices before the first one whose worker cannot be started. -/
theorem beginStart_cases (f : Fleet) (serials : List String) (resume : Bool)
    (hitches : List (Option Hitch)) :
    (∃ state e, f.Notices state ∧ e.isLate = false ∧
        f.beginStart serials resume hitches = ({ f with state }, .error e)) ∨
      (f.state = .running → f.isBusy = false) ∧ f.beginStart serials resume hitches =
        (f.beginRun (enlist serials hitches).1 resume, outcome (enlist serials hitches).2) := by
  obtain ⟨state, hnotices, hstate⟩ := f.refresh_eq
  unfold beginStart
  simp only [hstate]
  split
  · exact .inl ⟨_, _, hnotices, rfl, rfl⟩
  next hfree =>
    split
    · exact .inl ⟨_, _, hnotices, rfl, rfl⟩
    split
    · exact .inl ⟨_, _, hnotices, rfl, rfl⟩
    -- A run that is noticed to be completed does not prevent another one.
    refine .inr ⟨fun hrunning => ?_, rfl⟩
    obtain hsame | ⟨-, hbusy, -⟩ := hnotices
    · exact absurd (hsame.trans hrunning) hfree
    · exact hbusy

/-- What a start says does not depend on whether it gives up. -/
theorem start_snd (f : Fleet) (serials : List String) (resume : Bool)
    (hitches : List (Option Hitch)) :
    (f.start serials resume hitches).2 = (f.beginStart serials resume hitches).2 := by
  unfold start
  split
  next h => rw [h]
  next => rfl

/-- If nothing keeps a worker from being started, no start gives up. -/
theorem start_eq (f : Fleet) (serials : List String) (resume : Bool) :
    f.start serials resume = f.beginStart serials resume := by
  obtain ⟨state, e, -, hearly, hfails⟩ | ⟨-, hbegins⟩ := f.beginStart_cases serials resume []
  · simp only [start, hfails, hearly, Bool.false_eq_true, if_false]
  · rw [enlist_nil] at hbegins
    rw [start, hbegins]
    rfl

/-- Such a start fails early and changes the state at most, or begins a run with all devices, unless
someone is at work. -/
theorem start_cases (f : Fleet) (serials : List String) (resume : Bool) :
    (∃ state e, f.Notices state ∧ f.start serials resume = ({ f with state }, .error e)) ∨
      (f.state = .running → f.isBusy = false) ∧
        f.start serials resume = (f.beginRun serials resume, .ok ()) := by
  rw [start_eq]
  obtain ⟨state, e, hnotices, -, hfails⟩ | ⟨hfree, hbegins⟩ := f.beginStart_cases serials resume []
  · exact .inl ⟨state, e, hnotices, hfails⟩
  · rw [enlist_nil] at hbegins
    exact .inr ⟨hfree, hbegins⟩

/-- Every event does one of these things. -/
theorem after_change (p : Plan) (f : Fleet) (e : FleetEvent) :
    Change p f e (f.after p e) (f.deed e) := by
  cases e with
  | act i =>
    cases hw : f.workers[i]? with
    | none =>
      have hafter : f.after p (.act i) = f := by simp only [after, act, hw]
      have hdeed : f.deed (.act i) = none := by simp only [deed, hw, Option.bind_none]
      rw [hafter, hdeed]
      exact .still rfl rfl rfl (fun _ h => h) fun _ => .inl rfl
    | some w =>
      have hafter : f.after p (.act i) =
          { f with
            queue := (Bench.act p (f.isStopped w.run) ⟨f.queue, f.files, w⟩).queue
            files := (Bench.act p (f.isStopped w.run) ⟨f.queue, f.files, w⟩).files
            workers := f.workers.set i
              (Bench.act p (f.isStopped w.run) ⟨f.queue, f.files, w⟩).worker } := by
        simp only [after, act, hw]
      have hdeed : f.deed (.act i) = Bench.deed ⟨f.queue, f.files, w⟩ := by
        simp only [deed, hw, Option.bind_some]
      rw [hafter, hdeed]
      exact .worked hw (Bench.act_step p _ _) rfl rfl rfl rfl rfl
  | answer i reply =>
    cases hw : f.workers[i]? with
    | none =>
      have hafter : f.after p (.answer i reply) = f := by simp only [after, hw]
      rw [hafter]
      exact .still rfl rfl rfl (fun _ h => h) fun _ => .inl rfl
    | some w =>
      cases hq : w.phase.question? with
      | none =>
        have hafter : f.after p (.answer i reply) = f := by simp only [after, hw, hq]
        rw [hafter]
        exact .still rfl rfl rfl (fun _ h => h) fun _ => .inl rfl
      | some q =>
        have hafter : f.after p (.answer i reply) =
            { f with
              workers := f.workers.set i
                { w with phase := q.next (q.request.truthful (f.isStopped w.run) reply) } } := by
          simp only [after, hw, hq, enter]
        rw [hafter]
        exact .worked hw (.answered q hq reply) rfl rfl rfl rfl rfl
  | start serials resume =>
    show Change p f _ (f.start serials resume).1 none
    obtain ⟨state, error, hnotices, h⟩ | ⟨hfree, h⟩ := f.start_cases serials resume
    · rw [h]
      exact .still rfl rfl rfl (fun _ h => h) fun _ => hnotices
    · rw [h]
      exact .started rfl rfl rfl rfl rfl hfree rfl
  | beginStop =>
    show Change p f _ f.beginStop.1 none
    obtain ⟨state, hnotices, hstate⟩ := f.refresh_eq
    unfold beginStop
    simp only [hstate]
    split
    · -- There is a run under way, and it is stopped from now on.
      exact .still rfl rfl rfl (fun _ h => List.mem_cons_of_mem _ h) fun _ => hnotices
    · exact .still rfl rfl rfl (fun _ h => h) fun _ => hnotices
  | endStop => exact .still rfl rfl rfl (fun _ h => h) fun h => absurd rfl h
  | look =>
    show Change p f _ f.refresh none
    obtain ⟨state, hnotices, hstate⟩ := f.refresh_eq
    rw [hstate]
    exact .still rfl rfl rfl (fun _ h => h) fun _ => hnotices
  | files t => exact .still rfl rfl rfl (fun _ h => h) fun _ => .inl rfl
  | call c => exact .called rfl rfl rfl rfl rfl rfl

/-- What holds along some events may be weakened. -/
theorem Along.mono {p : Plan} {P Q : Fleet → FleetEvent → Prop} (h : ∀ f e, P f e → Q f e)
    {f : Fleet} {es : List FleetEvent} (hes : Along p P f es) : Along p Q f es := by
  induction es generalizing f with
  | nil => trivial
  | cons e es ih => exact ⟨h f e hes.1, ih hes.2⟩

/-- What an event keeps, given the record so far and what holds of the event, is kept over all
events. -/
theorem along_induction {p : Plan} {P : Fleet → FleetEvent → Prop} {I : List Deed → Fleet → Prop}
    (step : ∀ h f e, P f e → I h f → I (h ++ (f.deed e).toList) (f.after p e))
    {h : List Deed} {f : Fleet} {es : List FleetEvent} (hI : I h f) (hes : Along p P f es) :
    I (h ++ f.deeds p es) (f.afterAll p es) := by
  induction es generalizing h f with
  | nil =>
    rw [deeds, List.append_nil]
    exact hI
  | cons e es ih =>
    have hnext := ih (step h f e hes.1 hI) hes.2
    rw [List.append_assoc] at hnext
    exact hnext

end Fleet

end Autoplay
