import Autoplay.Proofs.Fleet.Incidents
import Autoplay.Proofs.Fleet.Thorough

/-!
# The beginning of a run

What is known of a fleet when a run begins. If nobody is at work then, the run is faithful from its
first event on (`Poised.faithful`), whatever its queue was used for before. The main statement,
`start_finds_rest`, says that this is so whenever no earlier run was stopped: then a run can begin
only if the fleet is completed, and all workers have come to their end.
-/

namespace Autoplay

namespace Bench.Step

variable {p : Plan} {stopped : Bool} {b b' : Bench} {d : Option Deed}

/-- A step keeps a queue valid. -/
theorem valid (step : Step p stopped b b' d) (h : b.queue.Valid) : b'.queue.Valid := by
  cases step with
  | took a => exact h.call p.settings.queue (c := .next) trivial
  | exhausted => exact h.call p.settings.queue (c := .next) trivial
  | marked a failure => exact h.call p.settings.queue (c := .mark a.id failure) trivial
  | moved a => exact h.call p.settings.queue (c := .move b.files a.id) trivial
  | _ => exact h

end Bench.Step

namespace Fleet

/-! ## Faithful fleets -/

/-- The workers of a fleet, with the record since some queue, do what they should. -/
structure Faithful (base : AccountQueue) (h : List Deed) (f : Fleet) : Prop where
  /-- No two workers hold the same account. -/
  holding : f.Holding
  /-- The record agrees with the queue. -/
  ledger : Ledger base h f.queue f.workers
  /-- An unharmed run leaves no account out. -/
  thorough : f.Thorough h

/-- Every event keeps this, if it does not start the accounts over. -/
theorem Faithful.after {p : Plan} {base : AccountQueue} {h : List Deed} {f : Fleet} {e : FleetEvent}
    (hf : f.Faithful base h) (he : f.GoesOn p e) :
    (f.after p e).Faithful base (h ++ (f.deed e).toList) :=
  ⟨hf.holding.after he.startsIdle, ledger_after hf.holding he hf.ledger,
    hf.thorough.after hf.holding he⟩

/-- So do all events together. -/
theorem Faithful.along {p : Plan} {base : AccountQueue} {h : List Deed} {f : Fleet}
    (hf : f.Faithful base h) {es : List FleetEvent} (hes : f.Along p (GoesOn p) es) :
    (f.afterAll p es).Faithful base (h ++ f.deeds p es) :=
  along_induction (I := fun h f => f.Faithful base h) (fun _ _ _ he hf => hf.after he) hf hes

/-- A fleet whose last run has not begun, if it is not over. -/
structure Poised (f : Fleet) : Prop where
  /-- The work of the workers of former runs is over. -/
  former : ∀ w ∈ f.workers, w.run ≠ f.run → w.phase.isOver = true
  /-- That of the others is over or has not begun. -/
  unbegun : ∀ w ∈ f.workers, w.phase.isOver = true ∨ ∃ rest, w.phase = .connecting rest
  /-- Nobody is the worker of a run to come. -/
  runs : ∀ w ∈ f.workers, w.run ≤ f.run

/-- Before the first event, when nothing has been handed out. -/
theorem Poised.faithful {f : Fleet} (hf : f.Poised) (hq : f.queue.Valid)
    (hcursor : f.queue.cursor = 0) : f.Faithful f.queue [] := by
  have hmarking {w : Worker} (hw : w ∈ f.workers) : w.marking = [] := by
    obtain hover | ⟨rest, hrest⟩ := hf.unbegun w hw
    · exact Worker.marking_of_isOver hover
    · exact Worker.marking_eq_nil hrest rfl
  refine ⟨⟨?_, hf.former⟩, ?_, ?_⟩
  · -- Nobody holds an account.
    have hheld : f.held = [] := by
      refine List.flatMap_eq_nil_iff.2 fun w hw => ?_
      obtain hover | ⟨rest, hrest⟩ := hf.unbegun w hw
      · exact Worker.held_of_isOver hover
      · rw [Worker.held, hrest]
        rfl
    rw [hheld]
    exact AccountQueue.holds_nil hq
  · -- Nothing is on record, and nobody is about to mark an account.
    have hnone : f.workers.flatMap Worker.marking = [] :=
      List.flatMap_eq_nil_iff.2 fun w hw => hmarking hw
    refine ⟨rfl, (List.append_nil _).symm, ?_, fun w hw a failure hphase => ?_,
      fun a failure hm => absurd hm List.not_mem_nil,
      fun x hx => .inl ⟨hx, List.not_mem_nil⟩, fun a r hf => absurd hf List.not_mem_nil, .nil⟩
    · rw [hnone]
      exact .nil
    · exact absurd (hmarking hw) (Worker.marking_ne_nil hphase)
  · -- Nothing has been passed, and no device was there.
    refine ⟨hf.runs, fun run serial hc => absurd hc List.not_mem_nil, fun w hw _ => ?_,
      fun _ => .start hcursor, fun _ hc => ?_⟩
    · obtain hover | ⟨rest, hrest⟩ := hf.unbegun w hw
      · exact Phase.undisturbed_of_isOver hover
      · rw [hrest]
        trivial
    · obtain ⟨serial, hc⟩ := hc
      exact absurd hc List.not_mem_nil

/-- A fleet in which nobody is at work. -/
structure AtRest (f : Fleet) : Prop where
  /-- The work of all workers is over. -/
  isOver : ∀ w ∈ f.workers, w.phase.isOver = true
  /-- Nobody is the worker of a run to come. -/
  runs : ∀ w ∈ f.workers, w.run ≤ f.run

/-- Without workers nobody is at work. -/
theorem AtRest.of_noWorkers {f : Fleet} (h : f.workers = []) : f.AtRest := by
  have hnone {w : Worker} (hw : w ∈ f.workers) : False := List.not_mem_nil (h ▸ hw)
  exact ⟨fun _ hw => (hnone hw).elim, fun _ hw => (hnone hw).elim⟩

/-- A fleet at rest is poised. -/
theorem AtRest.poised {f : Fleet} (hf : f.AtRest) : f.Poised :=
  ⟨fun w hw _ => hf.isOver w hw, fun w hw => .inl (hf.isOver w hw), hf.runs⟩

/-- A start that finds a fleet at rest makes it poised, with a new worker for each device. -/
theorem AtRest.start {f f' : Fleet} (hf : f.AtRest) {serials : List String} {resume : Bool}
    (h : f.start serials resume = (f', .ok ())) :
    f'.Poised ∧ f'.queue = prepared f.queue resume ∧ f'.crew = serials.map (recruit f'.run) := by
  obtain ⟨_, _, -, hfails⟩ | ⟨-, hbegins⟩ := f.start_cases serials resume
  · exact nomatch hfails.symm.trans h
  obtain ⟨rfl, -⟩ := Prod.mk.inj (hbegins.symm.trans h)
  refine ⟨⟨fun w hw hrun => ?_, fun w hw => ?_, fun w hw => ?_⟩, rfl, ?_⟩
  · obtain hold | ⟨serial, rfl⟩ := mem_recruits hw
    · exact hf.isOver w hold
    · exact absurd rfl hrun
  · obtain hold | ⟨serial, rfl⟩ := mem_recruits hw
    · exact .inl (hf.isOver w hold)
    · exact .inr ⟨_, rfl⟩
  · obtain hold | ⟨serial, rfl⟩ := mem_recruits hw
    · exact Nat.le_succ_of_le (hf.runs w hold)
    · exact Nat.le_refl _
  · -- The workers of former runs are not among those of this one.
    have hold : f.workers.filter (fun w => w.run = f.run + 1) = [] := by
      refine List.filter_eq_nil_iff.2 fun w hw hrun => ?_
      have := hf.runs w hw
      have := of_decide_eq_true hrun
      omega
    have hnew : (serials.map (recruit (f.run + 1))).filter (fun w => w.run = f.run + 1) =
        serials.map (recruit (f.run + 1)) := by
      refine List.filter_eq_self.2 fun w hw => ?_
      obtain ⟨serial, -, rfl⟩ := List.mem_map.1 hw
      exact decide_eq_true rfl
    rw [crew, beginRun, List.filter_append, hold, hnew, List.nil_append]

/-! ## A fleet that was not stopped -/

/-- What is known of a fleet in which no run was stopped. -/
structure Tidy (f : Fleet) : Prop extends Consecutive f where
  /-- The queue is valid. -/
  valid : f.queue.Valid

/-- Before any event. -/
theorem tidy_empty : Tidy {} := ⟨consecutive_empty, AccountQueue.valid_empty⟩

/-- An event that ends no stop and, if it loads a folder, finds distinct names in it. -/
def Regular (_ : Fleet) : FleetEvent → Prop
  | .endStop => False
  | .call c => c.Sound
  | _ => True

/-- Such an event keeps a fleet tidy. -/
theorem Tidy.after {p : Plan} {f : Fleet} {e : FleetEvent} (h : f.Tidy) (he : f.Regular e) :
    (f.after p e).Tidy := by
  have hidles : (Incident.event e).idles = false := by
    cases e with
    | endStop => exact he.elim
    | _ => rfl
  refine ⟨h.toConsecutive.after hidles, ?_⟩
  have hchange := f.after_change p e
  generalize f.deed e = d at hchange
  cases hchange with
  | still queue => exact queue ▸ h.valid
  | called hcall queue =>
    subst hcall
    exact queue ▸ h.valid.call _ he
  | worked _ step queue => exact queue ▸ step.valid h.valid
  | @started serials resume _ queue => exact queue ▸ prepared_valid h.valid resume

/-- When a run begins and no run was stopped before, nobody is at work. -/
theorem start_finds_rest {p : Plan} {es : List FleetEvent} (hes : Along p Regular {} es)
    {serials : List String} {resume : Bool} {f : Fleet}
    (h : (afterAll p {} es).start serials resume = (f, .ok ())) :
    (afterAll p {} es).AtRest ∧ f.queue.Valid ∧ f.queue.cursor = 0 := by
  have htidy : (afterAll p {} es).Tidy :=
    along_induction (I := fun _ f => f.Tidy) (h := []) (fun _ _ _ he h => h.after he) tidy_empty hes
  generalize afterAll p {} es = f₀ at h htidy
  obtain ⟨_, _, -, hfails⟩ | ⟨hfree, -⟩ := f₀.start_cases serials resume
  · exact nomatch hfails.symm.trans h
  have hrest : f₀.AtRest := by
    refine ⟨fun w hw => ?_, htidy.runs⟩
    rw [htidy.ended hfree w hw]
    rfl
  refine ⟨hrest, ?_⟩
  rw [(hrest.start h).2.1]
  exact ⟨prepared_valid htidy.valid resume, prepared_cursor _ resume⟩

end Fleet

end Autoplay
