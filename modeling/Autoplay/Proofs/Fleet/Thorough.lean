import Autoplay.Proofs.Account.Heeding
import Autoplay.Proofs.Fleet.Ledger

/-!
# A run that is not stopped leaves no account out

In a run that is never told to stop no cycle is given up and no worker leaves before there is no
account left to take. So, as long as no worker breaks down, everything that the cursor has passed is
done with or held (`Thorough.accounted`), and once a device was there, someone is at work until the
cursor has passed all accounts (`Thorough.atWork`). The main statement, `Thorough.after`, says that
every event keeps this.
-/

namespace Autoplay

/-! ## Talk that is never told to stop -/

/-- What a talk leads to when it is never told to stop: not to a result that says so. -/
def Undisturbed {α : Type} (stopped : α → Prop) (d : Talk α) : Prop :=
  ∃ left, d.Follows (stopRules false) (Heeded false 0 stopped fun _ => 0) ⟨false, left⟩

namespace Undisturbed

variable {α : Type} {stopped : α → Prop} {d : Talk α}

/-- What heeds a stop is not disturbed by one that never comes. -/
theorem of_heeds {rounds : Nat} (h : Heeds false rounds stopped (fun _ => 0) d) :
    Undisturbed stopped d :=
  ⟨0, h 0 nofun⟩

/-- The result of an undisturbed talk. -/
theorem not_stopped {a : α} (h : Undisturbed stopped (.done a)) : ¬ stopped a := by
  obtain ⟨left, hend⟩ := h
  exact fun hs => nomatch hend.told.2 hs

/-- A truthful answer does not disturb it. -/
theorem answer {q : Request} {next : q.Answer → Talk α}
    (h : Undisturbed stopped (Dialogue.ask q next)) (reply : (q : Request) → q.Answer) :
    Undisturbed stopped (next (q.truthful false reply)) := by
  obtain ⟨left, -, hnext⟩ := h
  cases q with
  | stopRequested => exact ⟨_, hnext false rfl⟩
  | pause d => exact ⟨_, hnext false rfl⟩
  | _ => exact ⟨_, hnext _ trivial⟩

end Undisturbed

/-- A worker that is never told to stop does not talk as if it was. -/
def Phase.Undisturbed : Phase → Prop
  | .cycling _ d => Autoplay.Undisturbed (· = .aborted) d
  | .resting d => Autoplay.Undisturbed (· = .error ⟨⟩) d
  | _ => True

/-- A worker whose device was there and that has not left. -/
def Phase.atWork : Phase → Bool
  | .connecting _ => false
  | .leaving => false
  | .ended => false
  | .crashed => false
  | _ => true

/-- A worker whose work is over talks no more. -/
theorem Phase.undisturbed_of_isOver {φ : Phase} (h : φ.isOver = true) : φ.Undisturbed := by
  cases φ with
  | cycling a d => exact absurd h Bool.false_ne_true
  | resting d => exact absurd h Bool.false_ne_true
  | _ => trivial

/-- A cycle that is never told to stop has another result. -/
theorem Phase.Undisturbed.result {a : Account} {r : AccountResult}
    (h : Phase.Undisturbed (.cycling a (.done r))) : r ≠ .aborted :=
  @Autoplay.Undisturbed.not_stopped AccountResult (· = .aborted) r h

/-- A pause that is never told to stop takes place. -/
theorem Phase.Undisturbed.rest {r : Except Stopped Unit}
    (h : Phase.Undisturbed (.resting (.done r))) : r ≠ .error ⟨⟩ :=
  @Autoplay.Undisturbed.not_stopped (Except Stopped Unit) (· = .error ⟨⟩) r h

/-- A worker that is at work has not come to the end. -/
theorem Phase.isOver_eq_false {φ : Phase} (h : φ.atWork = true) : φ.isOver = false := by
  cases φ <;> first | rfl | exact nomatch h

/-- The pause between two accounts. -/
theorem undisturbed_rest (p : Plan) : Phase.Undisturbed (.resting p.rest) := by
  have h : Obeys false 0 (⟨⟩ : Stopped)
      (Stoppable.pauseSeconds p.settings.timing.betweenAccounts) := obeys_pauseSeconds _
  exact .of_heeds h

/-- The cycle of an account. -/
theorem undisturbed_cycle (p : Plan) (a : Account) : Phase.Undisturbed (.cycling a (p.cycle a)) :=
  .of_heeds (Settings.heeds_processAccount _ _ _ _)

namespace Bench.Step

variable {p : Plan} {b b' : Bench} {d : Option Deed}

/-- A step of a worker that is not told to stop does not disturb it. -/
theorem undisturbed (step : Step p false b b' d) (h : b.worker.phase.Undisturbed) :
    b'.worker.phase.Undisturbed := by
  cases step with
  | idle => exact h
  | answered q hq reply =>
    obtain ⟨_, _, hphase, rfl⟩ | ⟨_, _, _, hphase, rfl⟩ | ⟨_, _, hphase, rfl⟩ :=
      Phase.question?_cases hq
    · trivial
    · rw [hphase] at h
      exact Undisturbed.answer h reply
    · rw [hphase] at h
      exact Undisturbed.answer h reply
  | announced a hphase => exact undisturbed_cycle p a
  | counted a failure hphase =>
    show Phase.Undisturbed (if _ then _ else _)
    split
    · trivial
    · exact undisturbed_rest p
  | moved a files hphase => exact undisturbed_rest p
  | _ => trivial

/-- In a step of a worker that is not told to stop and does not break down, what the cursor passes
is done with or held. -/
theorem accounted (step : Step p false b b' d) (hb : b.worker.phase.Undisturbed)
    (hcrash : b'.worker.phase ≠ .crashed) {rest : List String}
    (h : b.queue.Accounted (b.worker.held ++ rest)) :
    b'.queue.Accounted (b'.worker.held ++ rest) := by
  cases step.handles with
  | kept queue held =>
    rw [queue, held]
    exact h
  | asked queue before held =>
    rw [before] at h
    rw [queue, held]
    exact h.next.perm List.perm_append_comm
  | gaveUp queue held why =>
    obtain hcrashed | ⟨a, hphase⟩ := why
    · exact absurd hcrashed hcrash
    · rw [hphase] at hb
      exact absurd rfl hb.result
  | marked id failure queue before held =>
    rw [before] at h
    rw [queue, held]
    exact AccountQueue.Accounted.mark h p.settings.queue failure
  | moved id queue before held =>
    rw [before] at h
    rw [queue, held]
    exact h.of_samePlaces (AccountQueue.call_keeps_places (s := p.settings.queue)
      (c := .move b.files id) rfl)

/-- A step does not set the cursor back. -/
theorem passed_all {stopped : Bool} (step : Step p stopped b b' d)
    (h : b.queue.ids.length ≤ b.queue.cursor) : b'.queue.ids.length ≤ b'.queue.cursor := by
  have hnext : b.queue.next.2.ids.length ≤ b.queue.next.2.cursor := by
    rw [AccountQueue.ids, (AccountQueue.next_keeps b.queue).1]
    exact Nat.le_trans h (AccountQueue.cursor_le_next b.queue)
  have hplaces {c : QueueCall} (hc : c.keepsPlaces = true) :
      (b.queue.call p.settings.queue c).ids.length ≤ (b.queue.call p.settings.queue c).cursor := by
    have hkeeps := AccountQueue.call_keeps_places (s := p.settings.queue) (q := b.queue) hc
    rw [hkeeps.ids, hkeeps.cursor]
    exact h
  cases step.handles with
  | kept queue | gaveUp queue =>
    rw [queue]
    exact h
  | asked queue =>
    rw [queue]
    exact hnext
  | marked id failure queue =>
    rw [queue]
    exact hplaces rfl
  | moved id queue =>
    rw [queue]
    exact hplaces rfl

/-- A worker that is not told to stop and does not break down leaves only when the cursor has passed
all accounts. -/
theorem atWork (step : Step p false b b' d) (hb : b.worker.phase.Undisturbed)
    (hcrash : b'.worker.phase ≠ .crashed) (h : b.worker.phase.atWork = true) :
    b'.worker.phase.atWork = true ∨ b'.queue.ids.length ≤ b'.queue.cursor := by
  cases step with
  | idle => exact .inl h
  | answered q hq =>
    obtain ⟨_, _, hphase, rfl⟩ | ⟨_, _, _, hphase, rfl⟩ | ⟨_, _, hphase, rfl⟩ :=
      Phase.question?_cases hq
    · rw [hphase] at h
      exact nomatch h
    · exact .inl rfl
    · exact .inl rfl
  | unreachable _ hphase | left hphase =>
    rw [hphase] at h
    exact nomatch h
  | stopping _ hs => exact nomatch hs
  | broke hbroken => exact absurd rfl hcrash
  | exhausted hphase hn =>
    refine .inr ?_
    show b.queue.next.2.ids.length ≤ b.queue.next.2.cursor
    rw [(AccountQueue.next_ends hn).1, AccountQueue.ids, (AccountQueue.next_keeps b.queue).1,
      List.length_map]
    exact Nat.le_max_right _ _
  | aborted a hphase =>
    rw [hphase] at hb
    exact absurd rfl hb.result
  | stoppedResting e hphase =>
    rw [hphase] at hb
    exact absurd rfl hb.rest
  | counted a failure hphase =>
    refine .inl ?_
    show Phase.atWork (if _ then _ else _) = true
    split <;> rfl
  | _ => exact .inl rfl

/-- Only a device that is there is on record so, and its worker is at work then. -/
theorem of_connected {stopped : Bool} {run : Nat} {serial : String}
    (step : Step p stopped b b' (some (.connected run serial))) :
    run = b.worker.run ∧ b'.worker.phase.atWork = true := by
  cases step
  exact ⟨rfl, rfl⟩

end Bench.Step

namespace Fleet

/-- The last run was not told to stop, and no worker of it broke down. -/
def Unharmed (f : Fleet) : Prop :=
  f.isStopped f.run = false ∧ ∀ w ∈ f.workers, w.run = f.run → w.phase ≠ .crashed

/-- An unharmed run leaves no account out. -/
structure Thorough (h : List Deed) (f : Fleet) : Prop where
  /-- Nobody is the worker of a run to come. -/
  runs : ∀ w ∈ f.workers, w.run ≤ f.run
  /-- No device was there in a run to come. -/
  past : ∀ run serial, .connected run serial ∈ h → run ≤ f.run
  /-- Workers that were not told to stop do not talk as if they were. -/
  undisturbed : ∀ w ∈ f.workers, f.isStopped w.run = false → w.phase.Undisturbed
  /-- What the cursor has passed is done with or held. -/
  accounted : f.Unharmed → f.queue.Accounted f.held
  /-- Once a device was there, someone is at work until the cursor has passed all accounts. -/
  atWork : f.Unharmed → (∃ serial, .connected f.run serial ∈ h) →
    (∃ w ∈ f.workers, w.phase.atWork = true) ∨ f.queue.ids.length ≤ f.queue.cursor

/-- A run that is not told to stop later was not told to stop before. -/
theorem isStopped_mono {f f' : Fleet} (h : f.stopped ⊆ f'.stopped) {run : Nat}
    (hrun : f'.isStopped run = false) : f.isStopped run = false := by
  rw [isStopped, decide_eq_false_iff_not] at *
  exact fun hmem => hrun (h hmem)

section

variable {p : Plan} {f f' : Fleet} {h : List Deed} {w : Worker} {rest : List Worker} {b' : Bench}
  {d : Option Deed}

/-- A run that is unharmed after the step of a worker was so before. If it is the run of that
worker, the worker was not told to stop and has not broken down. -/
theorem Unharmed.of_step (hu : f'.Unharmed)
    (step : Bench.Step p (f.isStopped w.run) ⟨f.queue, f.files, w⟩ b' d)
    (hperm : f.workers.Perm (w :: rest)) (hperm' : f'.workers.Perm (b'.worker :: rest))
    (run : f'.run = f.run) (stopped : f'.stopped = f.stopped) :
    f.Unharmed ∧ (w.run = f.run → f.isStopped w.run = false ∧ b'.worker.phase ≠ .crashed) := by
  have hnew (v : Worker) (hv : v ∈ b'.worker :: rest) (hvrun : v.run = f.run) :
      v.phase ≠ .crashed :=
    hu.2 v (hperm'.mem_iff.2 hv) (hvrun.trans run.symm)
  have hs : f.isStopped f.run = false :=
    isStopped_mono (stopped ▸ fun _ h => h) (run ▸ hu.1)
  refine ⟨⟨hs, fun v hv hvrun hcrash => ?_⟩, fun hlast => ⟨hlast ▸ hs, ?_⟩⟩
  · obtain rfl | hv := List.mem_cons.1 (hperm.mem_iff.1 hv)
    · -- A worker that had broken down has done nothing since.
      have hover : v.phase.isOver = true := by rw [hcrash]; rfl
      obtain ⟨rfl, -⟩ := step.eq_of_isOver hover
      exact hnew v List.mem_cons_self hvrun hcrash
    · exact hnew v (List.mem_cons_of_mem _ hv) hvrun hcrash
  · exact hnew b'.worker List.mem_cons_self (step.run_eq.trans hlast)

/-- The step of a worker leaves nothing out that the cursor has passed. -/
theorem Thorough.accounted_step (ht : f.Thorough h) (hf : f.Holding)
    (step : Bench.Step p (f.isStopped w.run) ⟨f.queue, f.files, w⟩ b' d)
    (hperm : f.workers.Perm (w :: rest)) (hu : f.Unharmed)
    (hlast : w.run = f.run → f.isStopped w.run = false ∧ b'.worker.phase ≠ .crashed) :
    b'.queue.Accounted (b'.worker.held ++ rest.flatMap Worker.held) := by
  have hmem : w ∈ f.workers := hperm.mem_iff.2 List.mem_cons_self
  have hheld : f.queue.Accounted (w.held ++ rest.flatMap Worker.held) :=
    (ht.accounted hu).perm (hperm.flatMap_right _)
  by_cases hrun : w.run = f.run
  · obtain ⟨hs, hcrash⟩ := hlast hrun
    rw [hs] at step
    exact step.accounted (ht.undisturbed w hmem hs) hcrash hheld
  · -- A worker of a former run does nothing.
    obtain ⟨rfl, -⟩ := step.eq_of_isOver (hf.former w hmem hrun)
    exact hheld

/-- In the step of a worker the last one leaves only when the cursor has passed all accounts. -/
theorem Thorough.atWork_step (ht : f.Thorough h) (hf : f.Holding)
    (step : Bench.Step p (f.isStopped w.run) ⟨f.queue, f.files, w⟩ b' d)
    (hperm : f.workers.Perm (w :: rest)) (hu : f.Unharmed)
    (hlast : w.run = f.run → f.isStopped w.run = false ∧ b'.worker.phase ≠ .crashed)
    {serial : String} (hc : .connected f.run serial ∈ h) :
    (∃ v ∈ b'.worker :: rest, v.phase.atWork = true) ∨
      b'.queue.ids.length ≤ b'.queue.cursor := by
  have hmem : w ∈ f.workers := hperm.mem_iff.2 List.mem_cons_self
  obtain ⟨v, hv, hwork⟩ | hpassed := ht.atWork hu ⟨serial, hc⟩
  · obtain rfl | hv := List.mem_cons.1 (hperm.mem_iff.1 hv)
    · -- It was the worker itself, so it is one of the last run.
      have hrun : v.run = f.run := by
        by_contra hne
        have hover : v.phase.isOver = true := hf.former v hmem hne
        exact Bool.false_ne_true ((Phase.isOver_eq_false hwork).symm.trans hover)
      obtain ⟨hs, hcrash⟩ := hlast hrun
      rw [hs] at step
      refine (step.atWork (ht.undisturbed v hmem hs) hcrash hwork).imp_left fun hbusy => ?_
      exact ⟨b'.worker, List.mem_cons_self, hbusy⟩
    · exact .inl ⟨v, List.mem_cons_of_mem _ hv, hwork⟩
  · exact .inr (step.passed_all hpassed)

end

/-- Every event keeps this, if it does not start the accounts over. -/
theorem Thorough.after {p : Plan} {f : Fleet} {e : FleetEvent} {h : List Deed} (ht : f.Thorough h)
    (hf : f.Holding) (he : f.GoesOn p e) :
    (f.after p e).Thorough (h ++ (f.deed e).toList) := by
  have hchange := f.after_change p e
  unfold GoesOn at he
  generalize f.deed e = d at hchange
  generalize f.after p e = f' at hchange he ⊢
  cases hchange with
  | called hcall => exact absurd hcall (FleetEvent.ne_call he.1 _)
  | still queue workers run stopped =>
    rw [Option.toList_none, List.append_nil]
    have hunharmed (hu : f'.Unharmed) : f.Unharmed := by
      refine ⟨isStopped_mono stopped ?_, ?_⟩
      · rw [← run]
        exact hu.1
      · rw [← workers, ← run]
        exact hu.2
    refine ⟨?_, ?_, fun w hw hs => ?_, fun hu => ?_, fun hu hc => ?_⟩
    · rw [workers, run]
      exact ht.runs
    · rw [run]
      exact ht.past
    · rw [workers] at hw
      exact ht.undisturbed w hw (isStopped_mono stopped hs)
    · rw [queue, held, workers]
      exact ht.accounted (hunharmed hu)
    · rw [queue, workers]
      rw [run] at hc
      exact ht.atWork (hunharmed hu) hc
  | @worked i w b' _ hw step queue workers run stopped =>
    obtain ⟨rest, hperm, hperm'⟩ := exists_perm_set hw b'.worker
    rw [← workers] at hperm'
    have hmem : w ∈ f.workers := List.mem_of_getElem? hw
    have hrun : b'.worker.run = w.run := step.run_eq
    have hsame (r : Nat) : f'.isStopped r = f.isStopped r := by rw [isStopped, isStopped, stopped]
    have hbefore (hu : f'.Unharmed) := hu.of_step step hperm hperm' run stopped
    refine ⟨?_, fun r serial hc => ?_, ?_, fun hu => ?_, ?_⟩
    · rw [workers, run]
      refine forall_set ?_ ht.runs
      rw [hrun]
      exact ht.runs w hmem
    · rw [run]
      obtain hc | hc := List.mem_append.1 hc
      · exact ht.past r serial hc
      · obtain rfl : d = some (.connected r serial) := Option.mem_toList.1 hc
        rw [step.of_connected.1]
        exact ht.runs w hmem
    · rw [workers]
      refine forall_set (fun hs => ?_) fun v hv hs => ?_
      · rw [hsame, hrun] at hs
        rw [hs] at step
        exact step.undisturbed (ht.undisturbed w hmem hs)
      · exact ht.undisturbed v hv ((hsame _).symm.trans hs)
    · obtain ⟨hu, hlast⟩ := hbefore hu
      rw [queue, held]
      exact (ht.accounted_step hf step hperm hu hlast).perm (hperm'.flatMap_right _).symm
    · rintro hu ⟨serial, hc⟩
      obtain ⟨hu, hlast⟩ := hbefore hu
      rw [run] at hc
      rw [queue]
      have hthere : (∃ v ∈ b'.worker :: rest, v.phase.atWork = true) →
          ∃ v ∈ f'.workers, v.phase.atWork = true := by
        rintro ⟨v, hv, hwork⟩
        exact ⟨v, hperm'.mem_iff.2 hv, hwork⟩
      obtain hc | hc := List.mem_append.1 hc
      · exact (ht.atWork_step hf step hperm hu hlast hc).imp_left hthere
      · -- The worker has just found its device.
        obtain rfl : d = some (.connected f.run serial) := Option.mem_toList.1 hc
        exact .inl (hthere ⟨b'.worker, List.mem_cons_self, step.of_connected.2⟩)
  | @started serials resume _ queue workers run stopped =>
    obtain ⟨hrewind, hover⟩ := he.2 (by rw [run]; omega)
    rw [Option.toList_none, List.append_nil]
    refine ⟨fun w hw => ?_, fun r serial hc => ?_, fun w hw hs => ?_, fun _ => ?_, ?_⟩
    · rw [workers] at hw
      rw [run]
      obtain hold | ⟨serial, rfl⟩ := mem_recruits hw
      · exact Nat.le_succ_of_le (ht.runs w hold)
      · exact Nat.le_refl _
    · rw [run]
      exact Nat.le_succ_of_le (ht.past r serial hc)
    · rw [workers] at hw
      obtain hold | ⟨serial, rfl⟩ := mem_recruits hw
      · exact ht.undisturbed w hold (isStopped_mono (stopped ▸ fun _ h => h) hs)
      · trivial
    · exact .start (by rw [hrewind]; rfl)
    · rintro - ⟨serial, hc⟩
      have := ht.past _ serial hc
      omega

end Fleet

end Autoplay
