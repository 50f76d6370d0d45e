import Autoplay.Proofs.Fleet.Starting

/-!
# What the workers count

A worker counts an account after it has marked it, in an action of its own, so that its numbers may
be behind the queue by one account. `Fleet.Tallied` adds this account to the numbers: then those of
all workers of a run together are the numbers of accounts that were marked with success and as
failed. The main statement, `Tallied.after`, says that every event of a run keeps this. What is
known of a worker only grows (`Fleet.crew_grows`), and no more once it has ended.
-/

namespace Autoplay

/-- The number of accounts that succeeded, or that of those that failed. -/
def Progress.counted (s : Progress) : Bool → Nat
  | true => s.succeeded
  | false => s.failed

/-- The number of accounts that are to be counted as succeeded, or as failed. -/
def Phase.uncounted : Phase → Bool → Nat
  | .counting _ failure, success => if failure.isNone = success then 1 else 0
  | _, _ => 0

/-- What a worker has counted or is about to count. -/
def Worker.tally (w : Worker) (success : Bool) : Nat :=
  w.progress.counted success + w.phase.uncounted success

/-- Whether an account was marked as succeeded, or as failed. -/
def Deed.marksAs (success : Bool) : Deed → Bool
  | .marked _ failure => failure.isNone == success
  | _ => false

/-- One worker is what became of the other: it has counted no less, and is the same if the other had
come to its end. -/
structure Worker.Becomes (w w' : Worker) : Prop where
  /-- The run is the same. -/
  run : w'.run = w.run
  /-- It has counted no less. -/
  processed : w.progress.processed ≤ w'.progress.processed
  /-- It does nothing after its end. -/
  isOver : w.phase.isOver = true → w' = w

namespace Worker.Becomes

/-- At first it is the same. -/
theorem refl (w : Worker) : w.Becomes w :=
  ⟨rfl, Nat.le_refl _, fun _ => rfl⟩

/-- One thing comes after the other. -/
theorem trans {u v w : Worker} (h : u.Becomes v) (h' : v.Becomes w) : u.Becomes w := by
  refine ⟨h'.run.trans h.run, Nat.le_trans h.processed h'.processed, fun hover => ?_⟩
  obtain rfl := h.isOver hover
  exact h'.isOver hover

end Worker.Becomes

/-- Relations of lists may be put together. -/
theorem forall₂_trans {α : Type} {R : α → α → Prop} (hR : ∀ {a b c}, R a b → R b c → R a c)
    {l m n : List α} (h : List.Forall₂ R l m) (h' : List.Forall₂ R m n) : List.Forall₂ R l n := by
  induction h generalizing n with
  | nil => exact h'
  | cons hab _ ih =>
    cases h' with
    | cons hbc hrest => exact .cons (hR hab hbc) (ih hrest)

/-- A list and the same list with a member replaced. -/
theorem forall₂_set {α : Type} {R : α → α → Prop} (hR : ∀ a, R a a) {l : List α} {i : Nat} {a b : α}
    (hi : l[i]? = some a) (hab : R a b) : List.Forall₂ R l (l.set i b) := by
  induction l generalizing i with
  | nil => exact nomatch hi
  | cons c l ih =>
    cases i with
    | zero =>
      obtain rfl := Option.some.inj hi
      exact .cons hab (List.forall₂_same.2 fun x _ => hR x)
    | succ i => exact .cons (hR c) (ih hi)

namespace Bench.Step

variable {p : Plan} {stopped : Bool} {b b' : Bench} {d : Option Deed}

/-- What a worker has counted, or is about to count, grows by what it marks. -/
theorem tally (step : Step p stopped b b' d) (success : Bool) :
    b'.worker.tally success = b.worker.tally success + d.toList.countP (Deed.marksAs success) := by
  have quiet (hprogress : b'.worker.progress.counted success = b.worker.progress.counted success)
      (hb : b.worker.phase.uncounted success = 0) (hb' : b'.worker.phase.uncounted success = 0)
      (hd : d.toList.countP (Deed.marksAs success) = 0) :
      b'.worker.tally success =
        b.worker.tally success + d.toList.countP (Deed.marksAs success) := by
    rw [Worker.tally, Worker.tally, hprogress, hb, hb', hd]
  cases step with
  | idle => rfl
  | answered q hq =>
    obtain ⟨_, _, hphase, rfl⟩ | ⟨_, _, _, hphase, rfl⟩ | ⟨_, _, hphase, rfl⟩ :=
      Phase.question?_cases hq
    all_goals exact quiet rfl (by rw [hphase]; rfl) rfl rfl
  | connected hphase | unreachable _ hphase | going hphase _ | stopping hphase _ | took _ hphase _
  | exhausted hphase _ | announced _ hphase | finished _ _ hphase | aborted _ hphase
  | moved _ _ hphase | rested hphase | stoppedResting _ hphase | left hphase =>
    exact quiet (by cases success <;> rfl) (by rw [hphase]; rfl) rfl rfl
  | broke hbroken =>
    refine quiet rfl ?_ rfl rfl
    cases hphase : b.worker.phase with
    | counting a failure =>
      rw [hphase] at hbroken
      exact hbroken.elim
    | _ => rfl
  | marked a failure hphase =>
    -- What is marked is to be counted next.
    have hb : b.worker.phase.uncounted success = 0 := by rw [hphase]; rfl
    show b.worker.progress.counted success + Phase.uncounted (.counting a failure) success = _
    rw [Worker.tally, hb, Option.toList_some, List.countP_singleton]
    simp only [Phase.uncounted, Deed.marksAs, beq_iff_eq, Nat.add_zero]
  | counted a failure hphase =>
    -- What was to be counted is counted.
    have hb' : (if failure.isNone && p.settings.queue.moveOnComplete then Phase.moving a
        else .resting p.rest).uncounted success = 0 := by
      split <;> rfl
    show (b.worker.progress.count failure).counted success +
      Phase.uncounted (if _ then _ else _) _ = _
    rw [hb', Worker.tally, hphase]
    cases failure <;> cases success <;> rfl

/-- A worker has processed as many accounts as succeeded and failed together. -/
theorem balanced (step : Step p stopped b b' d)
    (h : b.worker.progress.processed = b.worker.progress.succeeded + b.worker.progress.failed) :
    b'.worker.progress.processed =
      b'.worker.progress.succeeded + b'.worker.progress.failed := by
  cases step with
  | counted a failure hphase =>
    show (b.worker.progress.count failure).processed =
      (b.worker.progress.count failure).succeeded + (b.worker.progress.count failure).failed
    cases failure <;> simp only [Progress.count, h] <;> omega
  | _ => exact h

/-- What becomes of a worker in a step. -/
theorem becomes (step : Step p stopped b b' d) : b.worker.Becomes b'.worker := by
  refine ⟨step.run_eq, ?_, fun hover => ?_⟩
  · cases step with
    | counted a failure hphase =>
      show b.worker.progress.processed ≤ (b.worker.progress.count failure).processed
      cases failure <;> exact Nat.le_succ _
    | _ => exact Nat.le_refl _
  · obtain ⟨rfl, -⟩ := step.eq_of_isOver hover
    rfl

end Bench.Step

namespace Fleet

/-- Nobody else calls the queue, and no other run begins. -/
def StaysInRun (p : Plan) (f : Fleet) (e : FleetEvent) : Prop :=
  e.isCall = false ∧ (f.after p e).run = f.run

instance decidableStaysInRun (p : Plan) (f : Fleet) (e : FleetEvent) :
    Decidable (f.StaysInRun p e) :=
  inferInstanceAs (Decidable (_ ∧ _))

/-- Then no accounts are started over. -/
theorem StaysInRun.goesOn {p : Plan} {f : Fleet} {e : FleetEvent} (h : f.StaysInRun p e) :
    f.GoesOn p e :=
  ⟨h.1, fun hrun => absurd h.2 hrun⟩

/-- The workers of a run have counted what was marked since its beginning, up to what they are about
to count. -/
structure Tallied (h : List Deed) (f : Fleet) : Prop where
  /-- Each has processed as many as succeeded and failed together. -/
  balanced : ∀ w ∈ f.crew, w.progress.processed = w.progress.succeeded + w.progress.failed
  /-- Together they have counted what was marked. -/
  marks : ∀ success, (f.crew.map fun w => w.tally success).sum = h.countP (Deed.marksAs success)

/-- In an event of a run one of its workers does something, or none does. -/
theorem Change.crew_cases {p : Plan} {f f' : Fleet} {e : FleetEvent} {d : Option Deed}
    (h : Change p f e f' d) (hf : f.Holding) (hrun : f'.run = f.run) :
    (f'.crew = f.crew ∧ d = none) ∨
      ∃ (stopped : Bool) (b b' : Bench) (rest : List Worker), Bench.Step p stopped b b' d ∧
        f.crew.Perm (b.worker :: rest) ∧ f'.crew.Perm (b'.worker :: rest) := by
  have hcrew : f'.crew = f'.workers.filter fun w => w.run = f.run := by rw [crew, hrun]
  cases h with
  | still _ workers => exact .inl ⟨by rw [hcrew, workers, crew], rfl⟩
  | called _ _ workers => exact .inl ⟨by rw [hcrew, workers, crew], rfl⟩
  | @worked i w b' _ hw step _ workers =>
    obtain ⟨rest, hperm, hperm'⟩ := exists_perm_set hw b'.worker
    rw [← workers] at hperm'
    by_cases hlast : w.run = f.run
    · have hfilter {v : Worker} {vs : List Worker} (hv : v.run = f.run) (hp : vs.Perm (v :: rest)) :
          (vs.filter fun w => w.run = f.run).Perm (v :: rest.filter fun w => w.run = f.run) := by
        have hpfilter := hp.filter fun w => w.run = f.run
        rwa [List.filter_cons, if_pos (decide_eq_true hv)] at hpfilter
      refine .inr ⟨_, _, _, rest.filter fun w => w.run = f.run, step, hfilter hlast hperm, ?_⟩
      rw [hcrew]
      exact hfilter (step.run_eq.trans hlast) hperm'
    · -- The work of a worker of a former run is over, so nothing happens.
      obtain ⟨rfl, rfl⟩ := step.eq_of_isOver (hf.former w (List.mem_of_getElem? hw) hlast)
      obtain ⟨hi, hwi⟩ := List.getElem?_eq_some_iff.1 hw
      have hsame : f.workers.set i w = f.workers := by rw [← hwi, List.set_getElem_self]
      exact .inl ⟨by rw [hcrew, workers, hsame, crew], rfl⟩
  | started _ _ _ run => exact absurd (run.symm.trans hrun) (Nat.succ_ne_self _)

/-- Every event of a run keeps this. -/
theorem Tallied.after {p : Plan} {f : Fleet} {e : FleetEvent} {h : List Deed} (ht : f.Tallied h)
    (hf : f.Holding) (he : f.StaysInRun p e) :
    (f.after p e).Tallied (h ++ (f.deed e).toList) := by
  have hcases := (f.after_change p e).crew_cases hf he.2
  generalize f.deed e = d at hcases
  generalize f.after p e = f' at hcases ⊢
  obtain ⟨hsame, rfl⟩ | ⟨_, b, b', rest, step, hperm, hperm'⟩ := hcases
  · rw [Option.toList_none, List.append_nil]
    exact ⟨hsame ▸ ht.balanced, hsame ▸ ht.marks⟩
  · refine ⟨fun w hw => ?_, fun success => ?_⟩
    · obtain rfl | hw := List.mem_cons.1 (hperm'.mem_iff.1 hw)
      · exact step.balanced (ht.balanced _ (hperm.mem_iff.2 List.mem_cons_self))
      · exact ht.balanced w (hperm.mem_iff.2 (List.mem_cons_of_mem _ hw))
    · -- The others have counted what they had.
      have hbefore := (hperm.map fun w => w.tally success).sum_nat
      have hafter := (hperm'.map fun w => w.tally success).sum_nat
      rw [ht.marks, List.map_cons, List.sum_cons] at hbefore
      rw [List.map_cons, List.sum_cons, step.tally] at hafter
      rw [hafter, List.countP_append]
      omega

/-- So do all events of a run together. -/
theorem Tallied.along {p : Plan} {base : AccountQueue} {f : Fleet} {h : List Deed}
    (ht : f.Tallied h) (hf : f.Faithful base h) {es : List FleetEvent}
    (hes : f.Along p (StaysInRun p) es) :
    (f.afterAll p es).Tallied (h ++ f.deeds p es) := by
  refine (along_induction (I := fun h f => f.Faithful base h ∧ f.Tallied h) ?_ ⟨hf, ht⟩ hes).2
  exact fun h f e he ⟨hf, ht⟩ => ⟨hf.after he.goesOn, ht.after hf.holding he⟩

/-- The marked accounts are those that were marked as succeeded and those that were marked as
failed. -/
theorem length_marked (h : List Deed) : (h.filterMap Deed.marked?).length =
    h.countP (Deed.marksAs true) + h.countP (Deed.marksAs false) := by
  induction h with
  | nil => rfl
  | cons d h ih =>
    cases d with
    | marked a failure =>
      have hmarked : (Deed.marked a failure).marked? = some a.id := rfl
      rw [List.filterMap_cons_some hmarked, List.length_cons, ih, List.countP_cons,
        List.countP_cons]
      cases failure <;> simp [Deed.marksAs] <;> omega
    | _ => exact ih

namespace Tallied

variable {h : List Deed} {f : Fleet}

/-- All numbers of the workers together are those of the marked accounts. -/
theorem sum_tally (ht : f.Tallied h) : (f.crew.map fun w => w.tally true + w.tally false).sum =
    (h.filterMap Deed.marked?).length := by
  rw [List.sum_map_add, ht.marks, ht.marks, length_marked]

/-- The workers have processed no more accounts than were marked. -/
theorem processed_le (ht : f.Tallied h) :
    (f.crew.map fun w => w.progress.processed).sum ≤ (h.filterMap Deed.marked?).length := by
  rw [← ht.sum_tally]
  refine List.sum_le_sum fun w hw => ?_
  rw [ht.balanced w hw, Worker.tally, Worker.tally, Progress.counted, Progress.counted]
  omega

/-- When all workers have ended, everything is counted. -/
theorem tally_of_ended {w : Worker} (hw : w.phase = .ended) (success : Bool) :
    w.tally success = w.progress.counted success := by
  rw [Worker.tally, hw]
  rfl

/-- When all workers have ended, they have counted what was marked. -/
theorem sum_counted (ht : f.Tallied h) (hended : ∀ w ∈ f.crew, w.phase = .ended) (success : Bool) :
    (f.crew.map fun w => w.progress.counted success).sum = h.countP (Deed.marksAs success) := by
  rw [← ht.marks, List.map_congr_left fun w hw => tally_of_ended (hended w hw) success]

/-- When all workers have ended, they have processed what was marked. -/
theorem sum_processed (ht : f.Tallied h) (hended : ∀ w ∈ f.crew, w.phase = .ended) :
    (f.crew.map fun w => w.progress.processed).sum = (h.filterMap Deed.marked?).length := by
  rw [← ht.sum_tally]
  refine congrArg List.sum (List.map_congr_left fun w hw => ?_)
  rw [tally_of_ended (hended w hw), tally_of_ended (hended w hw), ht.balanced w hw]
  rfl

end Tallied

/-- What relates the workers of two moments of a run, and never those of different runs, relates the
workers of that run. -/
theorem forall₂_crew {R : Worker → Worker → Prop} (hR : ∀ {w w'}, R w w' → w'.run = w.run)
    {f f' : Fleet} (hrun : f'.run = f.run) (h : List.Forall₂ R f.workers f'.workers) :
    List.Forall₂ R f.crew f'.crew := by
  rw [crew, crew, hrun]
  refine List.rel_filter (fun w w' h => ?_) h
  show decide (w.run = f.run) = true ↔ decide (w'.run = f.run) = true
  rw [hR h]

/-- What becomes of the workers of a run in one event of it. -/
theorem crew_grows_after {p : Plan} {f : Fleet} {e : FleetEvent} (he : f.StaysInRun p e) :
    List.Forall₂ Worker.Becomes f.crew (f.after p e).crew := by
  have hrefl (ws : List Worker) : List.Forall₂ Worker.Becomes ws ws :=
    List.forall₂_same.2 fun w _ => .refl w
  have hchange := f.after_change p e
  have hrun := he.2
  generalize f.deed e = d at hchange
  generalize f.after p e = f' at hchange hrun ⊢
  refine forall₂_crew Worker.Becomes.run hrun ?_
  cases hchange with
  | still _ workers => exact workers ▸ hrefl _
  | called _ _ workers => exact workers ▸ hrefl _
  | worked hw step _ workers => exact workers ▸ forall₂_set .refl hw step.becomes
  | started _ _ _ run => exact absurd (run.symm.trans hrun) (Nat.succ_ne_self _)

/-- What becomes of them in all events of a run. -/
theorem crew_grows {p : Plan} {f : Fleet} {es : List FleetEvent}
    (hes : f.Along p (StaysInRun p) es) :
    List.Forall₂ Worker.Becomes f.crew (f.afterAll p es).crew := by
  induction es generalizing f with
  | nil => exact List.forall₂_same.2 fun w _ => .refl w
  | cons e es ih => exact forall₂_trans .trans (crew_grows_after hes.1) (ih hes.2)

end Fleet

end Autoplay
