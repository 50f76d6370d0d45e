import Autoplay.Proofs.Account.Remainder
import Autoplay.Proofs.Fleet.Stops
import Autoplay.Proofs.Run.Routine

/-!
# What a stopped worker still gives its device

A worker whose run was told to stop gives its device the command under way and what is left of the
sequence that this command belongs to, and nothing else. `Fleet.commands` lists what a worker gives
while some incidents happen; which of it may still come is said by phase (`Phase.Gives`). The main
statement is `commands_of_stopped`.
-/

namespace Autoplay

namespace Phase

variable {p : Plan}

/-- What a worker asks in this phase winds up. -/
def WindsUp (p : Plan) : Phase → Prop
  | .connecting rest => Autoplay.WindsUp p.settings.Sequence rest
  | .cycling _ rest => Autoplay.WindsUp p.settings.Sequence rest
  | .resting rest => Autoplay.WindsUp p.settings.Sequence rest
  | _ => True

/-- What a worker may give when it is told to stop in a phase. -/
def Gives (p : Plan) : Phase → List Command → Prop
  | .connecting rest, cs => GivesTold rest cs
  | .taking, cs => cs = [] ∨ ∃ a, GivesTold (p.cycle a) cs
  | .announcing a, cs => GivesTold (p.cycle a) cs
  | .cycling _ rest, cs => GivesTold rest cs
  | .resting rest, cs => GivesTold rest cs
  | _, cs => cs = []

/-- In every phase it may give nothing. -/
theorem gives_nil (p : Plan) (φ : Phase) : φ.Gives p [] := by
  cases φ with
  | connecting rest => exact .nil rest
  | taking => exact .inl rfl
  | announcing a => exact .nil (p.cycle a)
  | cycling a rest => exact .nil rest
  | resting rest => exact .nil rest
  | _ => exact rfl

/-- The command that a worker has under way. -/
def underWay (φ : Phase) : Option Command := φ.question?.bind (·.request.command?)

/-- A truthful answer tells a worker to stop whose run was told so. -/
theorem tellsStop_truthful {q : Request} (reply : (q : Request) → q.Answer)
    (hq : q.asksStop = true) : tellsStop ⟨q, q.truthful true reply⟩ = true := by
  cases q with
  | stopRequested => rfl
  | pause length => rfl
  | _ => exact nomatch hq

/-- The answer to a question of a worker that was told to stop, and what it may give then. -/
theorem gives_answer {φ : Phase} {q : Question} (hq : φ.question? = some q)
    (reply : (q : Request) → q.Answer) {cs : List Command}
    (h : (q.next (q.request.truthful true reply)).Gives p cs) :
    φ.Gives p (φ.underWay.toList ++ cs) := by
  have hunderWay : φ.underWay = q.request.command? := by rw [underWay, hq, Option.bind_some]
  rw [hunderWay]
  obtain ⟨_, _, rfl, rfl⟩ | ⟨_, _, _, rfl, rfl⟩ | ⟨_, _, rfl, rfl⟩ := question?_cases hq
  all_goals exact h.ask (tellsStop_truthful reply)

/-- It may give no more than the command under way. -/
theorem gives_underWay (p : Plan) (φ : Phase) : φ.Gives p φ.underWay.toList := by
  cases hq : φ.question? with
  | none =>
    have hnone : φ.underWay = none := by rw [underWay, hq, Option.bind_none]
    rw [hnone]
    exact φ.gives_nil p
  | some q =>
    have h := gives_answer hq (fun q => (stopping q ()).1) (gives_nil p _)
    rwa [List.append_nil] at h

end Phase

/-- The pause between two accounts gives no command. -/
theorem Plan.asks_rest (p : Plan) : p.rest.Asks fun q => q.command? = none := by
  have hpause (d : Duration) : (Stoppable.pause d).run.Asks fun q => q.command? = none := by
    have hwait : (do if ← Talk.ask (.pause d) then throw ⟨⟩ : Stoppable Unit).run.Asks
        fun q => q.command? = none := ⟨rfl, fun told => by cases told <;> exact trivial⟩
    unfold Stoppable.pause
    split
    · exact trivial
    · exact hwait
  exact .bind_except (x := liftM (Talk.seconds _)) (AllowsRoutine.seconds _).lift hpause

/-- So it winds up. -/
theorem Plan.windsUp_rest (p : Plan) : WindsUp p.settings.Sequence p.rest := by
  refine .of_single fun t r ht => ?_
  have hnone : given t = [] := List.filterMap_eq_nil_iff.2 fun q hq => by
    obtain ⟨x, hx, rfl⟩ := List.mem_map.1 hq
    exact p.asks_rest.of_goes ht x hx
  rw [hnone]
  exact Nat.zero_le 1

/-- What a worker may give in a phase that winds up is what may be left. -/
theorem Phase.WindsUp.remainder {p : Plan} {φ : Phase} (h : φ.WindsUp p) {cs : List Command}
    (hcs : φ.Gives p cs) : Remainder p.settings.Sequence cs := by
  have hcycle (a : Account) (hcs : GivesTold (p.cycle a) cs) :
      Remainder p.settings.Sequence cs :=
    (p.settings.windsUp_processAccount a.path p.workflow p.rounds).remainder hcs
  have hnothing (hnone : cs = []) : Remainder p.settings.Sequence cs :=
    .inl (hnone ▸ Nat.zero_le 1)
  cases φ with
  | connecting rest => exact Autoplay.WindsUp.remainder h hcs
  | taking =>
    obtain hnone | ⟨a, ha⟩ := hcs
    · exact hnothing hnone
    · exact hcycle a ha
  | announcing a => exact hcycle a hcs
  | cycling a rest => exact Autoplay.WindsUp.remainder h hcs
  | resting rest => exact Autoplay.WindsUp.remainder h hcs
  | _ => exact hnothing hcs

namespace Bench

variable {p : Plan} {b : Bench}

/-- A worker that waits for an answer does nothing. -/
theorem act_of_waiting (p : Plan) (stopped : Bool) {q : Question}
    (hq : b.worker.phase.question? = some q) : b.act p stopped = b := by
  obtain ⟨_, _, hphase, -⟩ | ⟨_, _, _, hphase, -⟩ | ⟨_, _, hphase, -⟩ := Phase.question?_cases hq
  all_goals simp only [act, hphase]

/-- After an action a worker that was told to stop may give no more than before it. -/
theorem act_gives {cs : List Command} (h : (b.act p true).worker.phase.Gives p cs) :
    b.worker.phase.Gives p cs := by
  cases hq : b.worker.phase.question? with
  | some q => rwa [act_of_waiting p true hq] at h
  | none =>
    have hstep := b.act_step p true
    generalize b.act p true = b' at hstep h
    generalize b.deed = d at hstep
    have hnothing (hnone : cs = []) : b.worker.phase.Gives p cs :=
      hnone ▸ b.worker.phase.gives_nil p
    -- Only an account that was taken leads to commands; told to stop, nobody goes on to take one.
    cases hstep with
    | idle => exact h
    | answered q hq' => exact nomatch hq.symm.trans hq'
    | going hphase hs => exact nomatch hs
    | took a hphase =>
      rw [hphase]
      exact .inr ⟨a, h⟩
    | announced a hphase =>
      rw [hphase]
      exact h
    | counted a failure hphase =>
      refine hnothing ?_
      have hnext : (if _ then Phase.moving a else .resting p.rest).Gives p cs := h
      split at hnext
      · exact hnext
      · exact GivesTold.eq_nil_of_asks hnext p.asks_rest
    | moved a files hphase => exact hnothing (GivesTold.eq_nil_of_asks h p.asks_rest)
    | _ => exact hnothing h

/-- What a worker asks winds up after every step. -/
theorem Step.windsUp {stopped : Bool} {b' : Bench} {d : Option Deed}
    (step : Step p stopped b b' d) (h : b.worker.phase.WindsUp p) : b'.worker.phase.WindsUp p := by
  cases step with
  | idle => exact h
  | answered q hq =>
    obtain ⟨_, _, hphase, rfl⟩ | ⟨_, _, _, hphase, rfl⟩ | ⟨_, _, hphase, rfl⟩ :=
      Phase.question?_cases hq
    all_goals
      rw [hphase] at h
      exact h.2 _
  | announced a => exact p.settings.windsUp_processAccount a.path p.workflow p.rounds
  | counted a failure =>
    show (if _ then Phase.moving a else .resting p.rest).WindsUp p
    split
    · trivial
    · exact p.windsUp_rest
  | moved => exact p.windsUp_rest
  | _ => trivial

end Bench

namespace Fleet

variable {p : Plan}

/-- The command that a worker has under way. -/
def underWay (f : Fleet) (i : Nat) : List Command :=
  f.workers[i]?.elim [] fun w => w.phase.underWay.toList

/-- The command of a worker that comes to its end in an incident. -/
def finishes (f : Fleet) (i : Nat) : Incident → List Command
  | .event (.answer j _) => if j = i then f.underWay i else []
  | .breakdown j => if j = i then f.underWay i else []
  | _ => []

/-- The commands of a worker that are under way at first or given in some incidents. -/
def commands (p : Plan) (i : Nat) : Fleet → List Incident → List Command
  | f, [] => f.underWay i
  | f, x :: xs => f.finishes i x ++ commands p i (f.afterIncident p x) xs

/-- What all workers of a fleet ask winds up. -/
theorem windsUp_afterIncidents (p : Plan) (xs : List Incident) :
    ∀ w ∈ (afterIncidents p {} xs).workers, w.phase.WindsUp p := by
  refine incidents_induction (I := fun f => ∀ w ∈ f.workers, w.phase.WindsUp p)
    (P := fun _ => True) (fun f x _ h => ?_) (fun _ hw => absurd hw List.not_mem_nil)
    fun _ _ => trivial
  intro w' hw'
  obtain ⟨i, hi⟩ := List.mem_iff_getElem?.1 hw'
  obtain ⟨w, hw, hfate⟩ | ⟨run, serial, rfl⟩ := fate_or_recruit hi
  · have hwinds : w.phase.WindsUp p := h w (List.mem_of_getElem? hw)
    exact hfate.keeps (P := fun w => w.phase.WindsUp p) hwinds (fun step => step.windsUp hwinds)
      fun _ => trivial
  · -- A new worker looks for its device, with a single command.
    refine .of_single fun t r ht => ?_
    obtain ⟨a, rest, rfl, rfl, -⟩ := ht
    exact Nat.le_refl 1

/-- A worker of a stopped run in an incident that answers nothing to it and does not break it
down. -/
theorem gives_apart {f : Fleet} {i : Nat} {w : Worker} (hw : f.workers[i]? = some w)
    (hstopped : f.isStopped w.run = true) {x : Incident}
    (hanswer : ∀ reply, x ≠ .event (.answer i reply)) (hbreakdown : x ≠ .breakdown i) :
    ∃ w', (f.afterIncident p x).workers[i]? = some w' ∧ w'.run = w.run ∧
      ∀ cs, w'.phase.Gives p cs → w.phase.Gives p (f.finishes i x ++ cs) := by
  have hfinishes : f.finishes i x = [] := by
    unfold finishes
    split
    next j reply => exact if_neg fun hj => hanswer reply (by rw [hj])
    next j => exact if_neg fun hj => hbreakdown (by rw [hj])
    next => rfl
  rw [hfinishes]
  obtain ⟨w', hw', hfate⟩ := fate p hw x
  refine ⟨w', hw', ?_⟩
  cases hfate with
  | stays => exact ⟨rfl, fun _ h => h⟩
  | acts =>
    rw [hstopped]
    exact ⟨(Bench.act_step p true ⟨f.queue, f.files, w⟩).run_eq, fun _ h => Bench.act_gives h⟩
  | answered hx => exact absurd hx (hanswer _)
  | broke hx => exact absurd hx hbreakdown

/-- A worker of a stopped run in any incident. -/
theorem gives_after {f : Fleet} {i : Nat} {w : Worker} (hw : f.workers[i]? = some w)
    (hstopped : f.isStopped w.run = true) (x : Incident) :
    ∃ w', (f.afterIncident p x).workers[i]? = some w' ∧ w'.run = w.run ∧
      ∀ cs, w'.phase.Gives p cs → w.phase.Gives p (f.finishes i x ++ cs) := by
  have hlt : i < f.workers.length := (List.getElem?_eq_some_iff.1 hw).1
  have hunderWay : f.underWay i = w.phase.underWay.toList := by
    rw [underWay, hw]
    rfl
  -- Without a question there is no answer to get, and nothing to break down at.
  have hidle (hq : w.phase.question? = none) : f.underWay i = [] := by
    rw [hunderWay, Phase.underWay, hq]
    rfl
  by_cases hanswer : ∃ reply, x = .event (.answer i reply)
  · obtain ⟨reply, rfl⟩ := hanswer
    rw [finishes, if_pos rfl]
    cases hq : w.phase.question? with
    | none =>
      have hsame : f.afterIncident p (.event (.answer i reply)) = f := by
        simp only [afterIncident, after, hw, hq]
      rw [hsame, hidle hq]
      exact ⟨w, hw, rfl, fun _ h => h⟩
    | some q =>
      rw [hunderWay]
      refine ⟨{ w with phase := q.next (q.request.truthful true reply) }, ?_, rfl, fun cs h => ?_⟩
      · simp only [afterIncident, after, hw, hq, enter, hstopped, List.getElem?_set_self hlt]
      · exact Phase.gives_answer hq reply h
  by_cases hbreakdown : x = .breakdown i
  · obtain rfl := hbreakdown
    rw [finishes, if_pos rfl]
    cases hq : w.phase.question? with
    | none =>
      have hsame : f.afterIncident p (.breakdown i) = f := by
        simp only [afterIncident, breakDown, hw, hq, Option.isSome_none, Bool.false_eq_true,
          if_false]
      rw [hsame, hidle hq]
      exact ⟨w, hw, rfl, fun _ h => h⟩
    | some q =>
      rw [hunderWay]
      refine ⟨{ w with phase := .crashed }, ?_, rfl, fun cs h => ?_⟩
      · simp only [afterIncident, breakDown, hw, hq, Option.isSome_some, if_true, enter,
          List.getElem?_set_self hlt]
      · have hnone : cs = [] := h
        rw [hnone, List.append_nil]
        exact w.phase.gives_underWay p
  · exact gives_apart hw hstopped (fun reply hx => hanswer ⟨reply, hx⟩) hbreakdown

/-- A worker of a stopped run in some incidents. -/
theorem gives_commands {f : Fleet} {i : Nat} {w : Worker} (hw : f.workers[i]? = some w)
    (hstopped : f.isStopped w.run = true) (xs : List Incident) :
    w.phase.Gives p (f.commands p i xs) := by
  induction xs generalizing f w with
  | nil =>
    rw [commands, underWay, hw]
    exact w.phase.gives_underWay p
  | cons x xs ih =>
    obtain ⟨w', hw', hrun, hgives⟩ := gives_after (p := p) hw hstopped x
    refine hgives _ (ih hw' ?_)
    -- A run that was told to stop stays so.
    have hmem : w.run ∈ f.stopped := of_decide_eq_true hstopped
    rw [hrun]
    exact decide_eq_true (stopped_subset f [x] hmem)

/-- From the moment when its run was told to stop, a worker gives what may be left: the command
under way, or what is left of a sequence. -/
theorem commands_of_stopped (p : Plan) (before xs : List Incident) {i : Nat} {w : Worker}
    (hw : (afterIncidents p {} before).workers[i]? = some w)
    (hstopped : (afterIncidents p {} before).isStopped w.run = true) :
    Remainder p.settings.Sequence ((afterIncidents p {} before).commands p i xs) := by
  have hwinds : w.phase.WindsUp p := windsUp_afterIncidents p before w (List.mem_of_getElem? hw)
  exact hwinds.remainder (gives_commands hw hstopped xs)

end Fleet

end Autoplay
