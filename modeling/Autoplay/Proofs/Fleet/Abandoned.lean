import Autoplay.Proofs.Account.LastCommand
import Autoplay.Proofs.Fleet.Stops

/-!
# What a stopped worker still does

A stop does not wait forever for the workers that it tells, so they may outlive it, and another run
may begin. What such a worker still does with the queue and the files is listed by `Fleet.touches`.
The main statement, `stopped_worker_wraps_up`, says what can be in that list, by the phase in which
the worker is told: it takes an account only if it was just about to, and it marks one and moves its
file only if the cycle of this account is over, or if the last command of the cycle is under way; in
every other phase it leaves queue and files alone. That the list need not be empty is shown by
`abandoned_worker_marks`.
-/

namespace Autoplay

/-- Something that a worker does with the queue or the files. -/
inductive Touch where
  /-- It asks for an account, and gets one or none. -/
  | asked (a : Option Account)
  /-- It marks an account. -/
  | marked (a : Account) (failure : Option String)
  /-- It moves the file of an account away. -/
  | moved (a : Account)
deriving DecidableEq, Repr

/-- What is done with the queue and the files when the cycle of an account is over. -/
def Plan.wrapUp (p : Plan) (a : Account) (failure : Option String) : List Touch :=
  .marked a failure :: if failure.isNone && p.settings.queue.moveOnComplete then [.moved a] else []

namespace Phase

/-- What a worker does with a queue and the files in its next action. -/
def touch (q : AccountQueue) : Phase → List Touch
  | .taking => [.asked q.next.1]
  | .marking a failure => [.marked a failure]
  | .moving a => [.moved a]
  | _ => []

/-- What a worker may still do with the queue and the files when it is told to stop in a phase. -/
def MayStill (p : Plan) : Phase → List Touch → Prop
  | .taking, l => l = [] ∨ ∃ a, l = [.asked a]
  | .cycling a rest, l => l = [] ∨
    ∃ failure, EndsNext (p.settings.IsLast a.path) (.ofFailure failure) rest ∧
      l <+: p.wrapUp a failure
  | .marking a failure, l => l <+: p.wrapUp a failure
  | .counting a failure, l => l <+: (p.wrapUp a failure).tail
  | .moving a, l => l <+: [.moved a]
  | _, l => l = []

/-- The cycle of a worker is late for a stop only during its last command. -/
def Prompt (p : Plan) : Phase → Prop
  | .cycling a rest => Autoplay.Prompt (fun r => r = .aborted) (p.settings.IsLast a.path) rest
  | _ => True

/-- In every phase it may do nothing. -/
theorem mayStill_nil (p : Plan) (φ : Phase) : φ.MayStill p [] := by
  cases φ with
  | taking => exact .inl rfl
  | cycling a rest => exact .inl rfl
  | marking a failure => exact List.nil_prefix
  | counting a failure => exact List.nil_prefix
  | moving a => exact List.nil_prefix
  | _ => exact rfl

/-- The result of a cycle that went well or failed is not that it was told to stop. -/
theorem ofFailure_ne_aborted (failure : Option String) :
    AccountResult.ofFailure failure ≠ .aborted := by
  cases failure <;> exact nofun

/-- The answer to a question of a worker that was told to stop, and what it may still do then. -/
theorem answer_mayStill {p : Plan} {φ : Phase} (hφ : φ.Prompt p) {q : Question}
    (hq : φ.question? = some q) (reply : (q : Request) → q.Answer) {l : List Touch}
    (h : (q.next (q.request.truthful true reply)).MayStill p l) : φ.MayStill p l := by
  obtain ⟨_, _, rfl, rfl⟩ | ⟨a, r, next, rfl, rfl⟩ | ⟨_, _, rfl, rfl⟩ := question?_cases hq
  · exact h
  · obtain hnone | ⟨failure, hends, hl⟩ := h
    · exact .inl hnone
    · -- The cycle was about to have this result, or it would notice the stop.
      have hheard : r.MayHear (r.truthful true reply) := by
        cases r <;> first | rfl | trivial
      exact .inr ⟨failure, hφ.endsNext hheard hends (ofFailure_ne_aborted failure), hl⟩
  · exact h

end Phase

namespace Bench

/-- A worker leaves queue and files alone unless it is on record as touching them. -/
theorem act_untouched (p : Plan) (stopped : Bool) {b : Bench}
    (h : b.worker.phase.touch b.queue = []) :
    (b.act p stopped).queue = b.queue ∧ (b.act p stopped).files = b.files := by
  have hstep := b.act_step p stopped
  generalize b.act p stopped = b' at hstep ⊢
  generalize b.deed = d at hstep
  cases hstep with
  | took _ hphase _ | exhausted hphase _ | marked _ _ hphase | moved _ _ hphase =>
    rw [hphase] at h
    exact nomatch h
  | _ => exact ⟨rfl, rfl⟩

/-- An action of a worker that was told to stop, and what it may still do then. -/
theorem act_mayStill (p : Plan) (b : Bench) {l : List Touch}
    (h : (b.act p true).worker.phase.MayStill p l) :
    b.worker.phase.MayStill p (b.worker.phase.touch b.queue ++ l) := by
  have goesTo (φ φ' : Phase) (hact : (b.act p true).worker.phase = φ')
      (hφ : φ'.MayStill p l → φ.MayStill p (φ.touch b.queue ++ l)) :
      φ.MayStill p (φ.touch b.queue ++ l) := by
    rw [hact] at h
    exact hφ h
  cases hphase : b.worker.phase with
  | connecting rest =>
    cases rest with
    | done r =>
      cases r with
      | ok u => exact goesTo _ .polling (by simp only [act, hphase]; rfl) id
      | error e => exact goesTo _ .ended (by simp only [act, hphase]; rfl) id
    | halt e => exact goesTo _ .crashed (by simp only [act, hphase]; rfl) id
    | ask q next => exact goesTo _ _ (by simp only [act, hphase]) id
  | polling => exact goesTo _ .leaving (by simp only [act, hphase]; rfl) id
  | taking =>
    -- Whatever it gets, it does nothing with it.
    have hnone : l = [] := by
      unfold act at h
      rw [hphase] at h
      dsimp only at h
      split at h <;> exact h
    rw [hnone]
    exact .inr ⟨b.queue.next.1, rfl⟩
  | announcing a =>
    refine goesTo _ (.cycling a (p.cycle a)) (by simp only [act, hphase]; rfl) fun hl => ?_
    -- The cycle is told to stop from its beginning on.
    obtain hnone | ⟨failure, hends, -⟩ := hl
    · exact hnone
    · have htold := p.settings.endsTold_processAccount a.path p.workflow p.rounds
      exact absurd (htold.of_endsNext hends) (Phase.ofFailure_ne_aborted failure)
  | cycling a rest =>
    cases rest with
    | done r =>
      cases r with
      | succeeded =>
        refine goesTo _ (.marking a none) (by simp only [act, hphase]; rfl) fun hl => ?_
        exact .inr ⟨none, rfl, hl⟩
      | failed m =>
        refine goesTo _ (.marking a (some m)) (by simp only [act, hphase]; rfl) fun hl => ?_
        exact .inr ⟨some m, rfl, hl⟩
      | aborted => exact goesTo _ .leaving (by simp only [act, hphase]; rfl) .inl
    | halt e => exact goesTo _ .crashed (by simp only [act, hphase]; rfl) .inl
    | ask q next => exact goesTo _ _ (by simp only [act, hphase]) id
  | marking a failure =>
    refine goesTo _ (.counting a failure) (by simp only [act, hphase]; rfl) fun hl => ?_
    exact (List.prefix_cons_inj _).2 hl
  | counting a failure =>
    have hact : (b.act p true).worker.phase =
        if failure.isNone && p.settings.queue.moveOnComplete then .moving a
        else .resting p.rest := by
      simp only [act, hphase]
      rfl
    rw [hact] at h
    show l <+: if failure.isNone && p.settings.queue.moveOnComplete then [.moved a] else []
    split at h
    next hmoves =>
      rw [if_pos hmoves]
      exact h
    next hstays =>
      have hnone : l = [] := h
      rw [if_neg hstays, hnone]
  | moving a =>
    refine goesTo _ (.resting p.rest) (by simp only [act, hphase]; rfl) fun hl => ?_
    have hnone : l = [] := hl
    rw [hnone]
    exact List.prefix_rfl
  | resting rest =>
    cases rest with
    | done r =>
      cases r with
      | ok u => exact goesTo _ .polling (by simp only [act, hphase]; rfl) id
      | error e => exact goesTo _ .leaving (by simp only [act, hphase]; rfl) id
    | halt e => exact goesTo _ .crashed (by simp only [act, hphase]; rfl) id
    | ask q next => exact goesTo _ _ (by simp only [act, hphase]) id
  | leaving => exact goesTo _ .ended (by simp only [act, hphase]; rfl) id
  | ended => exact goesTo _ .ended (by simp only [act, hphase]) id
  | crashed => exact goesTo _ .crashed (by simp only [act, hphase]) id

/-- A step leaves a worker prompt. -/
theorem Step.prompt {p : Plan} {stopped : Bool} {b b' : Bench} {d : Option Deed}
    (step : Step p stopped b b' d) (h : b.worker.phase.Prompt p) : b'.worker.phase.Prompt p := by
  cases step with
  | idle => exact h
  | answered q hq =>
    obtain ⟨_, _, -, rfl⟩ | ⟨a, r, next, hphase, rfl⟩ | ⟨_, _, -, rfl⟩ := Phase.question?_cases hq
    · trivial
    · rw [hphase] at h
      exact h.2 _
    · trivial
  | announced a => exact p.settings.prompt_processAccount a.path p.workflow p.rounds
  | counted a failure =>
    show (if _ then Phase.moving a else .resting p.rest).Prompt p
    split <;> trivial
  | _ => trivial

end Bench

namespace Fleet

variable {p : Plan}

/-- What a worker does with the queue or the files in an incident. -/
def touch (f : Fleet) (i : Nat) : Incident → List Touch
  | .event (.act j) =>
    if j = i then f.workers[i]?.elim [] fun w => w.phase.touch f.queue else []
  | _ => []

/-- Whoever does not act does nothing. -/
theorem touch_eq_nil {f : Fleet} {i : Nat} {x : Incident} (hx : x.isActOf i = false) :
    f.touch i x = [] := by
  unfold touch
  split
  next j => exact if_neg (of_decide_eq_false hx)
  next => rfl

/-- What a worker does with the queue or the files in some incidents. -/
def touches (p : Plan) (i : Nat) : Fleet → List Incident → List Touch
  | _, [] => []
  | f, x :: xs => f.touch i x ++ touches p i (f.afterIncident p x) xs

/-- All cycles of a fleet are late for a stop only during their last command. -/
theorem prompt_afterIncidents (p : Plan) (xs : List Incident) :
    ∀ w ∈ (afterIncidents p {} xs).workers, w.phase.Prompt p := by
  refine incidents_induction (I := fun f => ∀ w ∈ f.workers, w.phase.Prompt p)
    (P := fun _ => True) (fun f x _ h => ?_) (fun _ hw => absurd hw List.not_mem_nil)
    fun _ _ => trivial
  intro w' hw'
  obtain ⟨i, hi⟩ := List.mem_iff_getElem?.1 hw'
  obtain ⟨w, hw, hfate⟩ | ⟨run, serial, rfl⟩ := fate_or_recruit hi
  · have hprompt : w.phase.Prompt p := h w (List.mem_of_getElem? hw)
    exact hfate.keeps (P := fun w => w.phase.Prompt p) hprompt (fun step => step.prompt hprompt)
      fun _ => trivial
  · trivial

/-- Queue and files change only by what is on record, as far as the workers are concerned. -/
theorem untouched {f : Fleet} {x : Incident} (hx : x.isWork = true) (h : ∀ i, f.touch i x = []) :
    (f.afterIncident p x).queue = f.queue ∧ (f.afterIncident p x).files = f.files := by
  cases x with
  | breakdown i =>
    obtain hsame | ⟨w, q, -, -, hbroken⟩ := f.breakDown_cases i
    · rw [afterIncident, hsame]
      exact ⟨rfl, rfl⟩
    · rw [afterIncident, hbroken]
      exact ⟨rfl, rfl⟩
  | attempt | giveUp => exact absurd hx Bool.false_ne_true
  | event e =>
    cases e with
    | act i =>
      show (f.act p i).queue = f.queue ∧ (f.act p i).files = f.files
      have hi := h i
      rw [touch, if_pos rfl] at hi
      cases hw : f.workers[i]? with
      | none => simp only [act, hw, and_self]
      | some w =>
        rw [hw] at hi
        simp only [act, hw]
        exact Bench.act_untouched p _ (b := ⟨f.queue, f.files, w⟩) hi
    | answer i reply =>
      obtain hsame | ⟨w, q, -, -, hanswered⟩ := f.answer_cases p i reply
      · rw [afterIncident, hsame]
        exact ⟨rfl, rfl⟩
      · rw [afterIncident, hanswered]
        exact ⟨rfl, rfl⟩
    | _ => exact absurd hx Bool.false_ne_true

/-- A worker of a stopped run in one incident, and what it may still do then. -/
theorem mayStill_after {f : Fleet} {i : Nat} {w : Worker} (hw : f.workers[i]? = some w)
    (hstopped : f.isStopped w.run = true) (hφ : w.phase.Prompt p) (x : Incident) :
    ∃ w', (f.afterIncident p x).workers[i]? = some w' ∧ w'.run = w.run ∧
      ∀ l, w'.phase.MayStill p l → w.phase.MayStill p (f.touch i x ++ l) := by
  obtain ⟨w', hw', hfate⟩ := fate p hw x
  refine ⟨w', hw', ?_⟩
  cases hfate with
  | stays hx =>
    rw [touch_eq_nil hx]
    exact ⟨rfl, fun _ hl => hl⟩
  | acts hx =>
    let b : Bench := ⟨f.queue, f.files, w⟩
    have hrun : (b.act p true).worker.run = w.run := (b.act_step p true).run_eq
    have htouch : f.touch i x = w.phase.touch f.queue := by
      rw [hx, touch, if_pos rfl, hw]
      rfl
    rw [htouch, hstopped]
    exact ⟨hrun, fun _ hl => b.act_mayStill p hl⟩
  | answered hx hq =>
    rw [hx, hstopped]
    exact ⟨rfl, fun _ hl => Phase.answer_mayStill hφ hq _ hl⟩
  | broke hx =>
    rw [hx]
    refine ⟨rfl, fun l hl => ?_⟩
    have hnone : l = [] := hl
    rw [hnone]
    exact w.phase.mayStill_nil p

/-- A worker of a stopped run in some incidents. -/
theorem touches_mayStill {f : Fleet} {i : Nat} {w : Worker} (hw : f.workers[i]? = some w)
    (hstopped : f.isStopped w.run = true) (hf : ∃ before, f = afterIncidents p {} before)
    (xs : List Incident) : w.phase.MayStill p (f.touches p i xs) := by
  induction xs generalizing f w with
  | nil => exact w.phase.mayStill_nil p
  | cons x xs ih =>
    obtain ⟨before, rfl⟩ := hf
    have hprompt : w.phase.Prompt p := prompt_afterIncidents p before w (List.mem_of_getElem? hw)
    obtain ⟨w', hw', hrun, hmay⟩ := mayStill_after hw hstopped hprompt x
    refine hmay _ (ih hw' ?_ ⟨before ++ [x], ?_⟩)
    · rw [hrun]
      have hmem : w.run ∈ (afterIncidents p {} before).stopped := of_decide_eq_true hstopped
      exact decide_eq_true (stopped_subset _ [x] hmem)
    · rw [afterIncidents_append]
      rfl

/-- At any moment after its run was told to stop, a worker does with the queue and the files, in
whatever happens from then on, at most what its phase says: it asks for an account if it was about
to, without marking it, and marks an account and moves its file if the cycle of the account is over
or may end with the answer to its last command. As far as the workers are concerned, queue and files
change by such actions only. -/
theorem stopped_worker_wraps_up (p : Plan) (before xs : List Incident) {i : Nat} {w : Worker}
    (hw : (afterIncidents p {} before).workers[i]? = some w)
    (hstopped : (afterIncidents p {} before).isStopped w.run = true) :
    let f := afterIncidents p {} before
    w.phase.MayStill p (f.touches p i xs) ∧
      ∀ ys x, x.isWork = true →
        let g := f.afterIncidents p ys
        (∀ j, g.touch j x = []) →
          (g.afterIncident p x).queue = g.queue ∧ (g.afterIncident p x).files = g.files := by
  intro f
  refine ⟨touches_mayStill hw hstopped ⟨before, rfl⟩ xs, fun ys x hx => ?_⟩
  intro g hnone
  exact untouched hx hnone

/-- A run of one device is told to stop while the game is closed after the first cycle. -/
def closing : List Incident :=
  oneBegins.map .event ++ (turns 0 22 ++ [FleetEvent.beginStop]).map .event

/-- The stop ends before the device answers, and another run starts the accounts over. -/
def takeover : List Incident := [.event .endStop, .event (.start ["two"] false)]

/-- The device answers, and its worker acts three times. -/
def answered : List Incident := (turns 0 3).map .event

/-- The fleet when the run has been told to stop. -/
theorem afterIncidents_closing : afterIncidents promptPlan {} closing =
    (twoWaiting.start ["one"] true).1.afterAll promptPlan (turns 0 22 ++ [.beginStop]) := by
  rw [closing, afterIncidents_append, afterIncidents_oneBegins, afterIncidents_events]

/-- The worker marks the account whose cycle is over, and does nothing else with the queue. -/
theorem closing_worker_wraps_up :
    let f := afterIncidents promptPlan {} closing
    ∃ w, f.workers[0]? = some w ∧ f.isStopped w.run = true ∧
      f.touches promptPlan 0 (takeover ++ answered) =
        [.marked ⟨"b.xml", "/in/b.xml", .pending⟩ none] ∧
      w.phase.MayStill promptPlan [.marked ⟨"b.xml", "/in/b.xml", .pending⟩ none] := by
  intro f
  have hf : f = (twoWaiting.start ["one"] true).1.afterAll promptPlan (turns 0 22 ++ [.beginStop]) :=
    afterIncidents_closing
  have hsome : (f.workers[0]?).isSome = true := by
    rw [hf]
    decide +kernel
  have hall : ∀ w ∈ f.workers, f.isStopped w.run = true := by
    rw [hf]
    decide +kernel
  have htouches : f.touches promptPlan 0 (takeover ++ answered) =
      [.marked ⟨"b.xml", "/in/b.xml", .pending⟩ none] := by
    rw [hf]
    decide +kernel
  obtain ⟨w, hw⟩ := Option.isSome_iff_exists.1 hsome
  have hstopped : f.isStopped w.run = true := hall w (List.mem_of_getElem? hw)
  obtain ⟨hmay, -⟩ :=
    stopped_worker_wraps_up promptPlan closing (takeover ++ answered) hw hstopped
  refine ⟨w, hw, hstopped, htouches, ?_⟩
  rw [← htouches]
  exact hmay

/-- After the stop has ended and another run has begun, whose worker has not done anything yet, the
worker of the stopped run marks an account in the queue of the other one. -/
theorem abandoned_worker_marks :
    let f := (afterIncidents promptPlan {} closing).afterIncidents promptPlan takeover
    let g := f.afterIncidents promptPlan answered
    f.run = 2 ∧ f.workers.map Worker.run = [1, 2] ∧ f.isStopped 1 = true ∧
      f.queue.processed = [] ∧ g.queue.processed = ["b.xml"] ∧
      f.touches promptPlan 1 answered = [] := by
  intro f g
  have hf : f = ((twoWaiting.start ["one"] true).1.afterAll promptPlan
      (turns 0 22 ++ [.beginStop])).afterIncidents promptPlan takeover := by
    show (afterIncidents promptPlan {} closing).afterIncidents promptPlan takeover = _
    rw [afterIncidents_closing]
  have hg : g = f.afterIncidents promptPlan answered := rfl
  rw [hg, hf]
  decide +kernel

end Fleet

end Autoplay
