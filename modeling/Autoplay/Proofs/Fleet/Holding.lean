import Autoplay.Proofs.Fleet.Events
import Autoplay.Proofs.Queue.Holding

/-!
# What the workers of a fleet hold

A worker holds an account from the moment when it is handed out until it is marked or given up. The
main statement, `Holding.after`, says that no two workers of a fleet ever hold the same account and
none holds one that is done with, provided that runs are only started when the work of all workers
is over.
-/

namespace Autoplay

/-- The account that a worker holds. -/
def Phase.held : Phase → Option Account
  | .announcing a => some a
  | .cycling a _ => some a
  | .marking a _ => some a
  | _ => none

/-- The name of the account that a worker holds, if it holds one. -/
def Worker.held (w : Worker) : List String := (w.phase.held.map Account.id).toList

/-- A worker whose work is over holds nothing. -/
theorem Worker.held_of_isOver {w : Worker} (h : w.phase.isOver = true) : w.held = [] := by
  unfold held
  cases hphase : w.phase <;> rw [hphase] at h <;> first | rfl | exact nomatch h

/-- What a worker in some phase holds. -/
theorem Worker.held_eq {w : Worker} {φ : Phase} (hphase : w.phase = φ) :
    w.held = (φ.held.map Account.id).toList := by
  rw [held, hphase]

/-- The names of the accounts that the workers hold. -/
def Fleet.held (f : Fleet) : List String := f.workers.flatMap Worker.held

/-- Whether the work of a worker has come to its end. -/
instance decidableEqEnded : (φ : Phase) → Decidable (φ = .ended)
  | .ended => .isTrue rfl
  | .connecting _ => .isFalse nofun
  | .polling => .isFalse nofun
  | .taking => .isFalse nofun
  | .announcing _ => .isFalse nofun
  | .cycling _ _ => .isFalse nofun
  | .marking _ _ => .isFalse nofun
  | .counting _ _ => .isFalse nofun
  | .moving _ => .isFalse nofun
  | .resting _ => .isFalse nofun
  | .leaving => .isFalse nofun
  | .crashed => .isFalse nofun

/-- A worker that waits for an answer is in one of three phases, and stays in it. -/
theorem Phase.question?_cases {φ : Phase} {q : Question} (h : φ.question? = some q) :
    (∃ r next, φ = .connecting (Dialogue.ask r next) ∧ q = ⟨r, fun a => .connecting (next a)⟩) ∨
      (∃ a r next, φ = .cycling a (Dialogue.ask r next) ∧
        q = ⟨r, fun b => .cycling a (next b)⟩) ∨
      ∃ r next, φ = .resting (Dialogue.ask r next) ∧ q = ⟨r, fun a => .resting (next a)⟩ := by
  unfold question? at h
  split at h
  · exact .inl ⟨_, _, rfl, (Option.some.inj h).symm⟩
  · exact .inr (.inl ⟨_, _, _, rfl, (Option.some.inj h).symm⟩)
  · exact .inr (.inr ⟨_, _, rfl, (Option.some.inj h).symm⟩)
  · exact absurd h nofun

/-- In a list with a member replaced, the other members are the same. -/
theorem exists_perm_set {α : Type} {l : List α} {i : Nat} {a : α} (h : l[i]? = some a) (b : α) :
    ∃ rest, l.Perm (a :: rest) ∧ (l.set i b).Perm (b :: rest) := by
  obtain ⟨hi, rfl⟩ := List.getElem?_eq_some_iff.1 h
  refine ⟨l.eraseIdx i, (List.getElem_cons_eraseIdx_perm hi).symm, ?_⟩
  have hi' : i < (l.set i b).length := (List.length_set ..).symm ▸ hi
  have hset := List.getElem_cons_eraseIdx_perm hi'
  rw [List.getElem_set_self, List.eraseIdx_set_eq] at hset
  exact hset.symm

/-- What holds of the new member and of all that were there before holds of all. -/
theorem forall_set {α : Type} {P : α → Prop} {l : List α} {i : Nat} {b : α} (hb : P b)
    (hl : ∀ a ∈ l, P a) : ∀ a ∈ l.set i b, P a := by
  intro a ha
  obtain hold | rfl := List.mem_or_eq_of_mem_set ha
  · exact hl a hold
  · exact hb

/-- Who is there after a start was there before or is new. -/
theorem Fleet.mem_recruits {ws : List Worker} {serials : List String} {run : Nat} {w : Worker}
    (h : w ∈ ws ++ serials.map (recruit run)) : w ∈ ws ∨ ∃ serial, w = recruit run serial := by
  refine (List.mem_append.1 h).imp_right fun hnew => ?_
  obtain ⟨serial, -, rfl⟩ := List.mem_map.1 hnew
  exact ⟨serial, rfl⟩

/-- The workers of the last run. -/
theorem Fleet.mem_crew {f : Fleet} {w : Worker} : w ∈ f.crew ↔ w ∈ f.workers ∧ w.run = f.run := by
  rw [crew, List.mem_filter, decide_eq_true_iff]

/-- What a step of a worker can do with the accounts of the queue and with the one that it holds. -/
inductive Bench.Handles (p : Plan) (b b' : Bench) : Prop where
  /-- Nothing. -/
  | kept (queue : b'.queue = b.queue) (held : b'.worker.held = b.worker.held)
  /-- It asks for an account, and holds what it gets. -/
  | asked (queue : b'.queue = b.queue.next.2) (before : b.worker.held = [])
      (held : b'.worker.held = (b.queue.next.1.map Account.id).toList)
  /-- It gives up what it holds, as it breaks down or was told to stop. -/
  | gaveUp (queue : b'.queue = b.queue) (held : b'.worker.held = [])
      (why : b'.worker.phase = .crashed ∨ ∃ a, b.worker.phase = .cycling a (.done .aborted))
  /-- It marks the account that it holds. -/
  | marked (id : String) (failure : Option String)
      (queue : b'.queue = b.queue.call p.settings.queue (.mark id failure))
      (before : b.worker.held = [id]) (held : b'.worker.held = [])
  /-- It moves the file of an account that it holds no more. -/
  | moved (id : String) (queue : b'.queue = b.queue.call p.settings.queue (.move b.files id))
      (before : b.worker.held = []) (held : b'.worker.held = [])

namespace Bench.Step

variable {p : Plan} {stopped : Bool} {b b' : Bench} {d : Option Deed}

/-- A step keeps the run of the worker. -/
theorem run_eq (step : Step p stopped b b' d) : b'.worker.run = b.worker.run := by
  cases step <;> rfl

/-- A worker whose work is over does nothing. -/
theorem eq_of_isOver (step : Step p stopped b b' d) (h : b.worker.phase.isOver = true) :
    b' = b ∧ d = none := by
  cases hphase : b.worker.phase with
  | ended => cases step <;> simp_all [Phase.question?, Phase.Broken]
  | crashed => cases step <;> simp_all [Phase.question?, Phase.Broken]
  | _ =>
    rw [hphase] at h
    exact nomatch h

/-- A step does one of these things with the accounts. -/
theorem handles (step : Step p stopped b b' d) : Handles p b b' := by
  have kept (hqueue : b'.queue = b.queue) {φ φ' : Phase} (hphase : b.worker.phase = φ)
      (hphase' : b'.worker.phase = φ') (hheld : φ'.held = φ.held) : Handles p b b' := by
    refine .kept hqueue ?_
    rw [Worker.held, Worker.held, hphase, hphase', hheld]
  cases step with
  | idle => exact .kept rfl rfl
  | answered q hq =>
    obtain ⟨_, _, hphase, rfl⟩ | ⟨_, _, _, hphase, rfl⟩ | ⟨_, _, hphase, rfl⟩ :=
      Phase.question?_cases hq
    all_goals exact kept rfl hphase rfl rfl
  | connected hphase | unreachable _ hphase | going hphase _ | stopping hphase _
  | announced _ hphase | finished _ _ hphase | rested hphase | stoppedResting _ hphase
  | left hphase => exact kept rfl hphase rfl rfl
  | broke hbroken => exact .gaveUp rfl rfl (.inl rfl)
  | counted a failure hphase =>
    refine kept rfl hphase rfl ?_
    split <;> rfl
  | took a hphase ha =>
    refine .asked rfl (Worker.held_eq hphase) ?_
    rw [ha]
    rfl
  | exhausted hphase hn =>
    refine .asked rfl (Worker.held_eq hphase) ?_
    rw [hn]
    rfl
  | aborted a hphase => exact .gaveUp rfl rfl (.inr ⟨a, hphase⟩)
  | marked a failure hphase => exact .marked a.id failure rfl (Worker.held_eq hphase) rfl
  | moved a files hphase => exact .moved a.id rfl (Worker.held_eq hphase) rfl

/-- A step keeps the held accounts apart from each other and from those that are done with. -/
theorem holds (step : Step p stopped b b' d) {rest : List String}
    (h : b.queue.Holds (b.worker.held ++ rest)) : b'.queue.Holds (b'.worker.held ++ rest) := by
  cases step.handles with
  | kept queue held =>
    rw [queue, held]
    exact h
  | asked queue before held =>
    rw [before] at h
    rw [queue, held]
    exact h.next
  | gaveUp queue held =>
    rw [queue, held]
    exact h.of_append
  | marked id failure queue before held =>
    rw [before] at h
    rw [queue, held]
    exact (AccountQueue.Holds.mark h p.settings.queue failure).1
  | moved id queue before held =>
    rw [before] at h
    rw [queue, held]
    exact (AccountQueue.Holds.move h p.settings.queue b.files {}).1

end Bench.Step

namespace Fleet

/-- The workers of a fleet hold accounts of its queue, and the work of those of former runs is
over. -/
structure Holding (f : Fleet) : Prop where
  /-- What the workers hold. -/
  holds : f.queue.Holds f.held
  /-- Workers of former runs. -/
  former : ∀ w ∈ f.workers, w.run ≠ f.run → w.phase.isOver = true

/-- Nobody else calls the queue, and a start that begins a run finds all workers at the end of their
work. -/
def StartsIdle (p : Plan) (f : Fleet) (e : FleetEvent) : Prop :=
  e.isCall = false ∧ ((f.after p e).run ≠ f.run → ∀ w ∈ f.workers, w.phase.isOver = true)

/-- When the work of all workers is over nothing is held. -/
theorem held_eq_nil {f : Fleet} (h : ∀ w ∈ f.workers, w.phase.isOver = true) : f.held = [] :=
  List.flatMap_eq_nil_iff.2 fun w hw => Worker.held_of_isOver (h w hw)

/-- A run starts with the first account. -/
theorem prepared_cursor (q : AccountQueue) (resume : Bool) : (prepared q resume).cursor = 0 := by
  unfold prepared
  split <;> rfl

/-- The queue at the start of a run is valid. -/
theorem prepared_valid {q : AccountQueue} (hq : q.Valid) (resume : Bool) :
    (prepared q resume).Valid := by
  unfold prepared
  split
  · exact hq.call {} (c := .rewind) trivial
  · exact hq.call {} (c := .reset) trivial

/-- Every event keeps apart what the workers hold, if nobody else calls the queue and runs are
started only when all work is over. -/
theorem Holding.after {p : Plan} {f : Fleet} {e : FleetEvent} (h : f.Holding)
    (he : f.StartsIdle p e) : (f.after p e).Holding := by
  have hchange := f.after_change p e
  generalize f.deed e = d at hchange
  cases hchange with
  | called hcall => exact absurd hcall (FleetEvent.ne_call he.1 _)
  | still queue workers run stopped =>
    refine ⟨?_, ?_⟩
    · rw [queue, held, workers]
      exact h.holds
    · rw [workers, run]
      exact h.former
  | @worked i w b' _ hw step queue workers run stopped =>
    obtain ⟨rest, hperm, hperm'⟩ := exists_perm_set hw b'.worker
    refine ⟨?_, ?_⟩
    · have hheld : f.held.Perm (w.held ++ rest.flatMap Worker.held) := hperm.flatMap_right _
      rw [queue, held, workers]
      exact (step.holds (h.holds.perm hheld)).perm (hperm'.flatMap_right _).symm
    · rw [workers, run]
      refine forall_set (fun hrun => ?_) h.former
      -- The work of a worker of a former run is over, so its step does nothing.
      rw [step.run_eq] at hrun
      have hover := h.former w (List.mem_of_getElem? hw) hrun
      obtain ⟨rfl, -⟩ := step.eq_of_isOver hover
      exact hover
  | @started serials resume _ queue workers run stopped =>
    have hover := he.2 (by rw [run]; omega)
    -- The new workers have not taken anything yet.
    have hrecruits : (serials.map (recruit (f.run + 1))).flatMap Worker.held = [] := by
      refine List.flatMap_eq_nil_iff.2 fun w hw => ?_
      obtain ⟨serial, -, rfl⟩ := List.mem_map.1 hw
      rfl
    refine ⟨?_, fun v hv hrun => ?_⟩
    · rw [queue, held, workers, List.flatMap_append, hrecruits, List.append_nil]
      show (prepared f.queue resume).Holds f.held
      rw [held_eq_nil hover]
      exact AccountQueue.holds_nil (prepared_valid h.holds.valid resume)
    · rw [workers] at hv
      rw [run] at hrun
      obtain hold | ⟨serial, rfl⟩ := mem_recruits hv
      · exact hover v hold
      · exact absurd rfl hrun

end Fleet

end Autoplay
