import Mathlib
import Autoplay.Proofs.Fleet.Holding

/-!
# The record agrees with the queue

`Fleet.Ledger` states how the record of what the workers did, from some point on, stands to the
queue: each account that was marked is done with and has the outcome of its cycle, each cycle that
came to its end is marked or about to be, and none of these accounts is handed out again. The main
statement, `Fleet.ledger_after`, says that every event keeps it, provided that no run starts the
accounts over.
-/

namespace Autoplay

namespace Deed

/-- The account that was marked. -/
def marked? : Deed → Option String
  | .marked a _ => some a.id
  | _ => none

/-- The account whose cycle came to its end, unless it was told to stop. -/
def finished? : Deed → Option String
  | .finished a .succeeded => some a.id
  | .finished a (.failed _) => some a.id
  | _ => none

/-- The account that was handed out, or whose cycle was told to stop. -/
def open? : Deed → Option String
  | .took a => some a.id
  | .finished a .aborted => some a.id
  | _ => none

end Deed

/-- The account that a worker is about to mark. -/
def Phase.marking? : Phase → Option Account
  | .marking a _ => some a
  | _ => none

/-- The name of the account that a worker is about to mark, if it is. -/
def Worker.marking (w : Worker) : List String := (w.phase.marking?.map Account.id).toList

/-- A worker in another phase is not about to mark an account. -/
theorem Worker.marking_eq_nil {w : Worker} {φ : Phase} (hphase : w.phase = φ)
    (hφ : φ.marking? = none) : w.marking = [] := by
  rw [marking, hphase, hφ]
  rfl

/-- A worker that is about to mark an account. -/
theorem Worker.marking_eq {w : Worker} {a : Account} {failure : Option String}
    (hphase : w.phase = .marking a failure) : w.marking = [a.id] := by
  rw [marking, hphase]
  rfl

/-- Its account is there. -/
theorem Worker.marking_ne_nil {w : Worker} {a : Account} {failure : Option String}
    (hphase : w.phase = .marking a failure) : w.marking ≠ [] := by
  rw [marking_eq hphase]
  exact List.cons_ne_nil _ _

/-- An account that is about to be marked is held. -/
theorem Worker.marking_sublist (w : Worker) : w.marking.Sublist w.held := by
  unfold marking held
  cases hphase : w.phase with
  | marking a failure => exact .refl _
  | _ => exact List.nil_sublist _

/-- A worker whose work is over is not about to mark an account. -/
theorem Worker.marking_of_isOver {w : Worker} (h : w.phase.isOver = true) : w.marking = [] :=
  List.sublist_nil.1 (held_of_isOver h ▸ w.marking_sublist)

/-- A worker that breaks down is not about to mark an account. -/
theorem Phase.Broken.marking?_eq_none {φ : Phase} (h : φ.Broken) : φ.marking? = none := by
  cases φ with
  | marking a failure => exact h.elim
  | _ => rfl

/-- The record since some queue agrees with a later queue and the workers that it has then. -/
structure Ledger (base : AccountQueue) (h : List Deed) (q : AccountQueue) (ws : List Worker) :
    Prop where
  /-- The accounts are the same. -/
  ids : q.ids = base.ids
  /-- What is done with was done with or has been marked. -/
  processed : q.processed = base.processed ++ h.filterMap Deed.marked?
  /-- The accounts whose cycles came to an end are marked or about to be. -/
  finished : (h.filterMap Deed.finished?).Perm
    (h.filterMap Deed.marked? ++ ws.flatMap Worker.marking)
  /-- What is about to be marked is the result of a cycle. -/
  results : ∀ w ∈ ws, ∀ a failure, w.phase = .marking a failure →
    .finished a (.ofFailure failure) ∈ h
  /-- What was marked is the result of a cycle. -/
  cycles : ∀ a failure, .marked a failure ∈ h → .finished a (.ofFailure failure) ∈ h
  /-- An outcome is as before or the one that was marked. -/
  outcomes : ∀ x ∈ q.outcomes, (x ∈ base.outcomes ∧ x.1 ∉ h.filterMap Deed.marked?) ∨
    ∃ a failure, .marked a failure ∈ h ∧ x = (a.id, .ofFailure failure)
  /-- Cycles are for accounts of the queue. -/
  known : ∀ a r, .finished a r ∈ h → a.id ∈ q.ids
  /-- After its cycle came to an end, an account is not handed out again, nor given up. -/
  order : h.Pairwise fun d e => ∀ id, d.finished? = some id → e.open? ≠ some id

namespace Ledger

variable {base q : AccountQueue} {h : List Deed} {w : Worker} {ws rest : List Worker}

/-- Names, outcomes, what is done with and what is about to be marked are all that matters. -/
theorem transfer (hl : Ledger base h q ws) {q' : AccountQueue} {ws' : List Worker}
    (hids : q'.ids = q.ids) (hprocessed : q'.processed = q.processed)
    (houtcomes : q'.outcomes = q.outcomes)
    (hmarking : (ws.flatMap Worker.marking).Perm (ws'.flatMap Worker.marking))
    (hresults : ∀ w ∈ ws', ∀ a failure, w.phase = .marking a failure → w ∈ ws) :
    Ledger base h q' ws' where
  ids := hids.trans hl.ids
  processed := hprocessed.trans hl.processed
  finished := hl.finished.trans (hmarking.append_left _)
  results w hw a failure hphase := hl.results w (hresults w hw a failure hphase) a failure hphase
  cycles := hl.cycles
  outcomes := houtcomes ▸ hl.outcomes
  known := hids ▸ hl.known
  order := hl.order

/-- The order of the workers does not matter. -/
theorem perm (hl : Ledger base h q ws) {ws' : List Worker} (hp : ws.Perm ws') :
    Ledger base h q ws' :=
  hl.transfer rfl rfl rfl (hp.flatMap_right _) fun _ hw _ _ _ => hp.mem_iff.2 hw

/-- What came to its end is done with or held by another worker. -/
theorem processed_or_held (hl : Ledger base h q (w :: rest)) (hw : w.marking = []) {id : String}
    (hid : id ∈ h.filterMap Deed.finished?) :
    id ∈ q.processed ∨ id ∈ rest.flatMap Worker.held := by
  rw [hl.finished.mem_iff, List.mem_append, List.flatMap_cons, hw, List.nil_append] at hid
  refine hid.imp (fun hm => ?_) fun hm => ?_
  · rw [hl.processed]
    exact List.mem_append_right _ hm
  · obtain ⟨v, hv, hmark⟩ := List.mem_flatMap.1 hm
    exact List.mem_flatMap.2 ⟨v, hv, v.marking_sublist.subset hmark⟩

/-- What a worker holds without being about to mark it has not come to its end. -/
theorem not_finished (hl : Ledger base h q (w :: rest)) (hw : w.marking = []) {q' : AccountQueue}
    (hprocessed : q'.processed = q.processed) {id : String}
    (hq' : q'.Holds (id :: rest.flatMap Worker.held)) : id ∉ h.filterMap Deed.finished? := by
  intro hid
  obtain hdone | hother := hl.processed_or_held hw hid
  · exact hq'.not_processed List.mem_cons_self (hprocessed.symm ▸ hdone)
  · exact (List.nodup_cons.1 (List.nodup_append.1 hq'.nodup).1).1 hother

/-- Something is put on record. -/
theorem order_append (hl : Ledger base h q ws) {d : Deed}
    (hd : ∀ id, d.open? = some id → id ∉ h.filterMap Deed.finished?) :
    (h ++ [d]).Pairwise fun d e => ∀ id, d.finished? = some id → e.open? ≠ some id := by
  refine List.pairwise_append.2
    ⟨hl.order, List.pairwise_singleton _ _, fun e he d' hd' id hid => ?_⟩
  obtain rfl := List.mem_singleton.1 hd'
  exact fun hopen => hd id hopen (List.mem_filterMap.2 ⟨e, he, hid⟩)

/-- A worker that neither comes to the end of a cycle nor marks an account. -/
theorem quiet (hl : Ledger base h q (w :: rest)) {q' : AccountQueue} {w' : Worker}
    (hids : q'.ids = q.ids) (hprocessed : q'.processed = q.processed)
    (houtcomes : q'.outcomes = q.outcomes) (hw : w.marking = []) (hw' : w'.marking = []) :
    Ledger base h q' (w' :: rest) := by
  refine hl.transfer hids hprocessed houtcomes ?_ fun v hv a failure hphase => ?_
  · rw [List.flatMap_cons, List.flatMap_cons, hw, hw']
  · obtain rfl | hv := List.mem_cons.1 hv
    · exact absurd hw' (Worker.marking_ne_nil hphase)
    · exact List.mem_cons_of_mem _ hv

/-- A deed is put on record that neither ends a cycle nor marks an account. -/
theorem record (hl : Ledger base h q ws) {d : Deed} (hmarked : d.marked? = none)
    (hfinished : d.finished? = none)
    (hopen : ∀ id, d.open? = some id → id ∉ h.filterMap Deed.finished?)
    (hknown : ∀ a r, d = .finished a r → a.id ∈ q.ids) : Ledger base (h ++ [d]) q ws := by
  have hmarks : (h ++ [d]).filterMap Deed.marked? = h.filterMap Deed.marked? := by
    rw [List.filterMap_append, List.filterMap_cons_none hmarked]
    exact List.append_nil _
  have hends : (h ++ [d]).filterMap Deed.finished? = h.filterMap Deed.finished? := by
    rw [List.filterMap_append, List.filterMap_cons_none hfinished]
    exact List.append_nil _
  refine ⟨hl.ids, hmarks.symm ▸ hl.processed, ?_, fun v hv a failure hphase => ?_,
    fun a failure hm => ?_, fun x hx => ?_, fun a r hf => ?_, hl.order_append hopen⟩
  · rw [hmarks, hends]
    exact hl.finished
  · exact List.mem_append_left _ (hl.results v hv a failure hphase)
  · obtain hm | hm := List.mem_append.1 hm
    · exact List.mem_append_left _ (hl.cycles a failure hm)
    · obtain rfl := List.mem_singleton.1 hm
      exact nomatch hmarked
  · rw [hmarks]
    refine (hl.outcomes x hx).imp_right ?_
    rintro ⟨a, failure, hm, hx⟩
    exact ⟨a, failure, List.mem_append_left _ hm, hx⟩
  · obtain hf | hf := List.mem_append.1 hf
    · exact hl.known a r hf
    · exact hknown a r (List.mem_singleton.1 hf).symm

/-- A cycle comes to its end. -/
theorem finish (hl : Ledger base h q (w :: rest)) {a : Account} {failure : Option String}
    (hid : a.id ∈ q.ids) (hw : w.marking = []) :
    Ledger base (h ++ [.finished a (.ofFailure failure)]) q
      ({ w with phase := .marking a failure } :: rest) := by
  have hmarks : (h ++ [Deed.finished a (.ofFailure failure)]).filterMap Deed.marked? =
      h.filterMap Deed.marked? := by
    rw [List.filterMap_append]
    exact List.append_nil _
  have hends : (h ++ [Deed.finished a (.ofFailure failure)]).filterMap Deed.finished? =
      h.filterMap Deed.finished? ++ [a.id] := by
    rw [List.filterMap_append]
    cases failure <;> rfl
  have hopen (id : String) : (Deed.finished a (.ofFailure failure)).open? = some id →
      id ∉ h.filterMap Deed.finished? := by
    cases failure <;> exact nofun
  refine ⟨hl.ids, hmarks.symm ▸ hl.processed, ?_, fun v hv b failure' hphase => ?_,
    fun b failure' hm => ?_, fun x hx => ?_, fun b r hf => ?_, hl.order_append hopen⟩
  · have hfinished := hl.finished
    rw [List.flatMap_cons, hw] at hfinished
    rw [hmarks, hends]
    calc h.filterMap Deed.finished? ++ [a.id]
      _ |>.Perm ((h.filterMap Deed.marked? ++ rest.flatMap Worker.marking) ++ [a.id]) :=
          hfinished.append_right _
      _ |>.Perm (h.filterMap Deed.marked? ++ (rest.flatMap Worker.marking ++ [a.id])) :=
          .of_eq (List.append_assoc _ _ _)
      _ |>.Perm (h.filterMap Deed.marked? ++ (a.id :: rest.flatMap Worker.marking)) :=
          (List.perm_append_singleton _ _).append_left _
  · obtain rfl | hv := List.mem_cons.1 hv
    · -- The worker is about to mark the result of this very cycle.
      obtain ⟨rfl, rfl⟩ := Phase.marking.inj hphase
      exact List.mem_append_right _ (List.mem_singleton_self _)
    · exact List.mem_append_left _ (hl.results v (List.mem_cons_of_mem _ hv) b failure' hphase)
  · obtain hm | hm := List.mem_append.1 hm
    · exact List.mem_append_left _ (hl.cycles b failure' hm)
    · exact nomatch List.mem_singleton.1 hm
  · rw [hmarks]
    refine (hl.outcomes x hx).imp_right ?_
    rintro ⟨b, failure', hm, hx⟩
    exact ⟨b, failure', List.mem_append_left _ hm, hx⟩
  · obtain hf | hf := List.mem_append.1 hf
    · exact hl.known b r hf
    · obtain ⟨rfl, -⟩ := Deed.finished.inj (List.mem_singleton.1 hf)
      exact hid

/-- An account is marked. -/
theorem mark (hl : Ledger base h q (w :: rest)) {a : Account} {failure : Option String}
    (hq : q.Holds (a.id :: rest.flatMap Worker.held)) (hphase : w.phase = .marking a failure)
    {w' : Worker} (hw' : w'.marking = []) (s : QueueSettings) :
    Ledger base (h ++ [.marked a failure]) (q.call s (.mark a.id failure)) (w' :: rest) := by
  have hid : a.id ∈ q.ids := hq.mem_ids List.mem_cons_self
  have hids : (q.call s (.mark a.id failure)).ids = q.ids :=
    (AccountQueue.call_keeps_places (s := s) (q := q) (c := .mark a.id failure) rfl).ids
  have hmarks : (h ++ [Deed.marked a failure]).filterMap Deed.marked? =
      h.filterMap Deed.marked? ++ [a.id] := by
    rw [List.filterMap_append]
    rfl
  have hends : (h ++ [Deed.marked a failure]).filterMap Deed.finished? =
      h.filterMap Deed.finished? := by
    rw [List.filterMap_append]
    exact List.append_nil _
  refine ⟨hids.trans hl.ids, ?_, ?_, fun v hv b failure' hb => ?_, fun b failure' hm => ?_,
    fun x hx => ?_, fun b r hf => ?_, hl.order_append nofun⟩
  · rw [(hq.mark s failure).2, hl.processed, hmarks, List.append_assoc]
  · -- The account was about to be marked, and now it is.
    have hfinished := hl.finished
    rw [List.flatMap_cons, Worker.marking_eq hphase] at hfinished
    rw [hmarks, hends, List.flatMap_cons, hw', List.append_assoc]
    exact hfinished
  · obtain rfl | hv := List.mem_cons.1 hv
    · exact absurd hw' (Worker.marking_ne_nil hb)
    · exact List.mem_append_left _ (hl.results v (List.mem_cons_of_mem _ hv) b failure' hb)
  · obtain hm | hm := List.mem_append.1 hm
    · exact List.mem_append_left _ (hl.cycles b failure' hm)
    · obtain ⟨rfl, rfl⟩ := Deed.marked.inj (List.mem_singleton.1 hm)
      exact List.mem_append_left _ (hl.results w List.mem_cons_self b failure' hphase)
  · -- The account has the outcome of its cycle, and no other outcome changes.
    rw [AccountQueue.outcomes_mark hq.valid hid] at hx
    obtain ⟨y, hy, rfl⟩ := List.mem_map.1 hx
    split
    · exact .inr ⟨a, failure, List.mem_append_right _ (List.mem_singleton_self _), rfl⟩
    next hne =>
      rw [hmarks]
      rcases hl.outcomes y hy with ⟨hbase, hnot⟩ | ⟨b, failure', hm, hy⟩
      · refine .inl ⟨hbase, fun hm => ?_⟩
        obtain hm | hm := List.mem_append.1 hm
        · exact hnot hm
        · exact hne (List.mem_singleton.1 hm)
      · exact .inr ⟨b, failure', List.mem_append_left _ hm, hy⟩
  · rw [hids]
    obtain hf | hf := List.mem_append.1 hf
    · exact hl.known b r hf
    · exact nomatch List.mem_singleton.1 hf

end Ledger

/-- A step keeps the record in agreement with the queue. -/
theorem Bench.Step.ledger {p : Plan} {stopped : Bool} {b b' : Bench} {d : Option Deed}
    (step : Step p stopped b b' d) {base : AccountQueue} {h : List Deed} {rest : List Worker}
    (hq : b.queue.Holds (b.worker.held ++ rest.flatMap Worker.held))
    (hl : Ledger base h b.queue (b.worker :: rest)) :
    Ledger base (h ++ d.toList) b'.queue (b'.worker :: rest) := by
  have hheld := step.holds hq
  cases step with
  | idle =>
    rw [Option.toList_none, List.append_nil]
    exact hl
  | answered q hq =>
    rw [Option.toList_none, List.append_nil]
    obtain ⟨_, _, hphase, rfl⟩ | ⟨_, _, _, hphase, rfl⟩ | ⟨_, _, hphase, rfl⟩ :=
      Phase.question?_cases hq
    all_goals exact hl.quiet rfl rfl rfl (Worker.marking_eq_nil hphase rfl) rfl
  | unreachable _ hphase | going hphase _ | stopping hphase _ | announced _ hphase | rested hphase
  | stoppedResting _ hphase | left hphase =>
    rw [Option.toList_none, List.append_nil]
    exact hl.quiet rfl rfl rfl (Worker.marking_eq_nil hphase rfl) rfl
  | broke hbroken =>
    rw [Option.toList_none, List.append_nil]
    exact hl.quiet rfl rfl rfl (Worker.marking_eq_nil rfl hbroken.marking?_eq_none) rfl
  | counted a failure hphase =>
    rw [Option.toList_none, List.append_nil]
    refine hl.quiet rfl rfl rfl (Worker.marking_eq_nil hphase rfl) (Worker.marking_eq_nil rfl ?_)
    split <;> rfl
  | connected hphase =>
    refine (hl.record (d := .connected _ _) rfl rfl (fun id hid => ?_) fun a r hr => ?_).quiet
      rfl rfl rfl (Worker.marking_eq_nil hphase rfl) rfl
    · exact absurd hid.symm (Option.some_ne_none id)
    · exact Deed.noConfusion hr
  | took a hphase ha =>
    obtain ⟨haccounts, hprocessed, -⟩ := AccountQueue.next_keeps b.queue
    have hquiet : b.worker.marking = [] := Worker.marking_eq_nil hphase rfl
    refine (hl.record (d := .took a) rfl rfl (fun id hid => ?_) fun c r hr => ?_).quiet
      (congrArg (List.map Account.id) haccounts) hprocessed (AccountQueue.outcomes_next _) hquiet
      rfl
    · -- What is handed out is neither done with nor held, so no cycle has completed it.
      obtain rfl := Option.some.inj hid
      exact hl.not_finished hquiet hprocessed hheld
    · exact Deed.noConfusion hr
  | exhausted hphase hn =>
    rw [Option.toList_none, List.append_nil]
    obtain ⟨haccounts, hprocessed, -⟩ := AccountQueue.next_keeps b.queue
    exact hl.quiet (congrArg (List.map Account.id) haccounts) hprocessed
      (AccountQueue.outcomes_next _) (Worker.marking_eq_nil hphase rfl) rfl
  | finished a failure hphase =>
    rw [Worker.held, hphase] at hq
    exact hl.finish (hq.mem_ids List.mem_cons_self) (Worker.marking_eq_nil hphase rfl)
  | aborted a hphase =>
    rw [Worker.held, hphase] at hq
    have hquiet : b.worker.marking = [] := Worker.marking_eq_nil hphase rfl
    refine (hl.record (d := .finished a .aborted) rfl rfl (fun id hid => ?_) fun c r hr => ?_).quiet
      rfl rfl rfl hquiet rfl
    · -- The account was held until now, so no cycle has completed it.
      obtain rfl := Option.some.inj hid
      exact hl.not_finished hquiet rfl hq
    · obtain ⟨rfl, -⟩ := Deed.finished.inj hr
      exact hq.mem_ids List.mem_cons_self
  | marked a failure hphase =>
    rw [Worker.held, hphase] at hq
    exact hl.mark hq hphase rfl p.settings.queue
  | moved a files hphase =>
    rw [Option.toList_none, List.append_nil]
    have hplaces := AccountQueue.call_keeps_places (s := p.settings.queue) (q := b.queue)
      (c := .move b.files a.id) rfl
    exact hl.quiet hplaces.ids (hq.move _ _ _).2 (AccountQueue.outcomes_move _ _ _ _ _)
      (Worker.marking_eq_nil hphase rfl) rfl

namespace Fleet

/-- Nobody else calls the queue, and an event does not start the accounts over: a run that begins
goes on with what is left, and finds all workers at the end of their work. -/
def GoesOn (p : Plan) (f : Fleet) (e : FleetEvent) : Prop :=
  e.isCall = false ∧ ((f.after p e).run ≠ f.run →
    (f.after p e).queue = f.queue.rewind ∧ ∀ w ∈ f.workers, w.phase.isOver = true)

/-- Then it finds all workers at the end of their work. -/
theorem GoesOn.startsIdle {p : Plan} {f : Fleet} {e : FleetEvent} (h : f.GoesOn p e) :
    f.StartsIdle p e :=
  ⟨h.1, fun hrun => (h.2 hrun).2⟩

/-- Every event keeps the record in agreement with the queue, if it does not start the accounts
over. -/
theorem ledger_after {p : Plan} {f : Fleet} {e : FleetEvent} {base : AccountQueue} {h : List Deed}
    (hf : f.Holding) (he : f.GoesOn p e) (hl : Ledger base h f.queue f.workers) :
    Ledger base (h ++ (f.deed e).toList) (f.after p e).queue (f.after p e).workers := by
  have hchange := f.after_change p e
  generalize f.deed e = d at hchange
  cases hchange with
  | called hcall => exact absurd hcall (FleetEvent.ne_call he.1 _)
  | still queue workers run stopped =>
    rw [Option.toList_none, List.append_nil, queue, workers]
    exact hl
  | @worked i w b' _ hw step queue workers run stopped =>
    obtain ⟨rest, hperm, hperm'⟩ := exists_perm_set hw b'.worker
    have hheld : f.held.Perm (w.held ++ rest.flatMap Worker.held) := hperm.flatMap_right _
    rw [queue, workers]
    exact (step.ledger (hf.holds.perm hheld) (hl.perm hperm)).perm hperm'.symm
  | @started serials resume _ queue workers run stopped =>
    obtain ⟨hrewind, hover⟩ := he.2 (by rw [run]; omega)
    -- Nobody is about to mark an account, neither before the start nor after it.
    have hnone {v : Worker} (hv : v ∈ f.workers ++ serials.map (recruit (f.run + 1))) :
        v.marking = [] := by
      obtain hold | ⟨serial, rfl⟩ := mem_recruits hv
      · exact Worker.marking_of_isOver (hover v hold)
      · rfl
    have hempty {vs : List Worker} (hvs : vs ⊆ f.workers ++ serials.map (recruit (f.run + 1))) :
        vs.flatMap Worker.marking = [] :=
      List.flatMap_eq_nil_iff.2 fun v hv => hnone (hvs hv)
    rw [Option.toList_none, List.append_nil, hrewind, workers]
    refine hl.transfer rfl rfl rfl ?_ fun v hv a failure hphase => ?_
    · rw [hempty (List.subset_append_left _ _), hempty (List.Subset.refl _)]
    · exact absurd (hnone hv) (Worker.marking_ne_nil hphase)

end Fleet

end Autoplay
