import Autoplay.Proofs.Fleet.Completion
import Autoplay.Proofs.Fleet.Tally

/-!
# What a status tells of a run

A status is put together bit by bit, while the workers go on: what is known of each worker is read
at a moment of its own, and the queue at last. The main statement, `progress_accounted`, says what
can be relied on all the same, in every run before which no run was stopped: the devices together
have never processed more accounts than the queue has gained since the beginning of the run, and
exactly as many once all workers have ended. It also says what a run makes of the queue that is not
stopped, if what comes out for an account depends on the account only: then outcomes and totals can
be read off the queue at the beginning of the run, whatever the devices are and however their
workers take turns.
-/

namespace Autoplay

/-- Two lists are the same if their members have the same names in the same order, those of one are
among those of the other, and no name comes twice. -/
theorem eq_of_map_eq_of_subset {α β : Type} {g : α → β} {l m : List α} (h : l.map g = m.map g)
    (hsub : l ⊆ m) (hnodup : (m.map g).Nodup) : l = m := by
  have hlength : l.length = m.length := by simpa only [List.length_map] using congrArg List.length h
  refine List.ext_getElem hlength fun i hi hi' => ?_
  have hname : g l[i] = g m[i] := by
    have hmap : (l.map g)[i]? = (m.map g)[i]? := by rw [h]
    simpa only [List.getElem?_map, List.getElem?_eq_getElem hi, List.getElem?_eq_getElem hi',
      Option.map_some, Option.some.injEq] using hmap
  exact List.inj_on_of_nodup_map hnodup (hsub (List.getElem_mem hi)) (List.getElem_mem hi') hname

/-- What becomes of the accounts when all that are not done with are processed, by name. -/
def AccountQueue.settled (q : AccountQueue) (verdict : String → Option String) :
    List (String × Outcome) :=
  q.accounts.map fun a =>
    (a.id, if a.id ∈ q.processed then a.outcome else .ofFailure (verdict a.id))

namespace Fleet

/-! ## What a run makes of the queue -/

namespace Faithful

variable {base : AccountQueue} {h : List Deed} {f : Fleet} {verdict : String → Option String}

/-- What was done with before was not marked. -/
theorem not_marked (hf : f.Faithful base h) {id : String} (hid : id ∈ base.processed) :
    id ∉ h.filterMap Deed.marked? := by
  have hnodup := hf.holding.holds.valid.nodup
  rw [hf.ledger.processed] at hnodup
  exact fun hm => (List.nodup_append.1 hnodup).2.2 id hid id hm rfl

/-- When all accounts are done with, those that were not before have been marked. -/
theorem marked_of_open (hf : f.Faithful base h) (hall : f.queue.ids ⊆ f.queue.processed)
    {id : String} (hid : id ∈ base.ids) (hopen : id ∉ base.processed) :
    id ∈ h.filterMap Deed.marked? := by
  have hdone := hall (hf.ledger.ids ▸ hid)
  rw [hf.ledger.processed] at hdone
  exact (List.mem_append.1 hdone).resolve_left hopen

/-- Then each account has the outcome that it had before, or that of its verdict. -/
theorem outcomes_settled (hf : f.Faithful base h) (hall : f.queue.ids ⊆ f.queue.processed)
    (hverdict : ∀ a failure, .finished a (.ofFailure failure) ∈ h → failure = verdict a.id) :
    f.queue.outcomes = base.settled verdict := by
  have hnames : f.queue.outcomes.map Prod.fst = f.queue.ids := List.map_map
  have hbase : (base.settled verdict).map Prod.fst = base.ids := List.map_map
  refine eq_of_map_eq_of_subset (hnames.trans (hf.ledger.ids.trans hbase.symm)) (fun x hx => ?_) ?_
  · obtain ⟨hx', hnot⟩ | ⟨b, failure, hm, rfl⟩ := hf.ledger.outcomes x hx
    · -- The account was not marked since, so it was done with before.
      obtain ⟨a, ha, rfl⟩ := List.mem_map.1 hx'
      have hdone : a.id ∈ base.processed := by
        by_contra hopen
        exact hnot (hf.marked_of_open hall (List.mem_map_of_mem ha) hopen)
      exact List.mem_map.2 ⟨a, ha, by rw [if_pos hdone]⟩
    · -- The account was marked since, so it was not done with before.
      have hid : b.id ∈ base.ids := hf.ledger.ids ▸ hnames ▸ List.mem_map_of_mem hx
      obtain ⟨a, ha, hab⟩ := List.mem_map.1 hid
      have hopen : a.id ∉ base.processed := fun hdone =>
        hf.not_marked (hab ▸ hdone) (List.mem_filterMap.2 ⟨_, hm, rfl⟩)
      refine List.mem_map.2 ⟨a, ha, ?_⟩
      rw [if_neg hopen, hab, hverdict b failure (hf.ledger.cycles b failure hm)]
  · rw [hbase, ← hf.ledger.ids]
    exact hf.holding.holds.valid.ids_nodup

/-- Then the marked accounts are those that waited at the beginning. -/
theorem marked_perm (hf : f.Faithful base h) (hall : f.queue.ids ⊆ f.queue.processed)
    (hcursor : base.cursor = 0) :
    (h.filterMap Deed.marked?).Perm (base.waiting.map Account.id) := by
  have hids : base.ids.Nodup := hf.ledger.ids ▸ hf.holding.holds.valid.ids_nodup
  have hwaiting : base.waiting = base.accounts.filter fun a => a.id ∉ base.processed := by
    rw [AccountQueue.waiting, hcursor, List.drop_zero]
  have hnodup : (base.waiting.map Account.id).Nodup := by
    rw [hwaiting]
    exact hids.sublist (List.filter_sublist.map _)
  refine (List.perm_ext_iff_of_nodup hf.marked_nodup hnodup).2 fun id =>
    ⟨fun hm => ?_, fun hm => ?_⟩
  · have hopen : id ∉ base.processed := fun hdone => hf.not_marked hdone hm
    have hdone : id ∈ f.queue.processed := by
      rw [hf.ledger.processed]
      exact List.mem_append_right _ hm
    have hid : id ∈ base.ids := hf.ledger.ids ▸ hf.holding.holds.valid.known id hdone
    obtain ⟨a, ha, rfl⟩ := List.mem_map.1 hid
    rw [hwaiting]
    exact List.mem_map_of_mem (List.mem_filter.2 ⟨ha, decide_eq_true hopen⟩)
  · obtain ⟨a, ha, rfl⟩ := List.mem_map.1 hm
    rw [hwaiting, List.mem_filter] at ha
    exact hf.marked_of_open hall (List.mem_map_of_mem ha.1) (of_decide_eq_true ha.2)

/-- Then as many were marked as succeeded, or as failed, as have such a verdict. -/
theorem countP_marks (hf : f.Faithful base h) (hall : f.queue.ids ⊆ f.queue.processed)
    (hcursor : base.cursor = 0)
    (hverdict : ∀ a failure, .finished a (.ofFailure failure) ∈ h → failure = verdict a.id)
    (success : Bool) : h.countP (Deed.marksAs success) =
      base.waiting.countP fun a => (verdict a.id).isNone == success := by
  have hmarks : h.countP (Deed.marksAs success) =
      (h.filterMap Deed.marked?).countP fun id => (verdict id).isNone == success := by
    rw [List.countP_filterMap]
    refine List.countP_congr fun d hd => ?_
    cases d with
    | marked a failure =>
      obtain rfl := hverdict a failure (hf.ledger.cycles a failure hd)
      exact Iff.rfl
    | _ => exact Iff.rfl
  rw [hmarks, (hf.marked_perm hall hcursor).countP_eq, List.countP_map]
  rfl

end Faithful

/-! ## What is seen of a run -/

/-- A status of a run: what it tells of a worker was so after some of the events of the run, and
what it tells of the queue after all of them. -/
structure Observed (p : Plan) (f : Fleet) (es : List FleetEvent) (moment : Nat → Nat)
    (s : FleetStatus) : Prop where
  /-- What it tells of the workers. -/
  devices : ∀ j, s.devices[j]? =
    ((f.afterAll p (es.take (moment j))).crew[j]?).map Worker.progress
  /-- What it tells of the queue. -/
  queue : s.queue = (f.afterAll p es).queue

/-- A status for which nobody goes on is one of them. -/
theorem observed_status (p : Plan) (f : Fleet) (es : List FleetEvent) :
    f.Observed p es (fun _ => es.length) (f.afterAll p es).status.2 := by
  obtain ⟨state, -, hstate⟩ := (f.afterAll p es).refresh_eq
  refine ⟨fun j => ?_, ?_⟩
  · rw [List.take_length, status, hstate]
    exact List.getElem?_map
  · rw [status, hstate]

/-- Some events and then others. -/
theorem afterAll_append (p : Plan) (f : Fleet) (es es' : List FleetEvent) :
    f.afterAll p (es ++ es') = (f.afterAll p es).afterAll p es' :=
  List.foldl_append

/-- What holds along some events and then others holds along both. -/
theorem Along.of_append {p : Plan} {P : Fleet → FleetEvent → Prop} {f : Fleet}
    {es es' : List FleetEvent} (h : f.Along p P (es ++ es')) :
    f.Along p P es ∧ (f.afterAll p es).Along p P es' := by
  induction es generalizing f with
  | nil => exact ⟨trivial, h⟩
  | cons e es ih =>
    obtain ⟨hrest, hothers⟩ := ih h.2
    exact ⟨⟨h.1, hrest⟩, hothers⟩

/-- The run stays the same in all events of it. -/
theorem run_along {p : Plan} {f : Fleet} {es : List FleetEvent}
    (hes : f.Along p (StaysInRun p) es) : (f.afterAll p es).run = f.run := by
  induction es generalizing f with
  | nil => rfl
  | cons e es ih => exact (ih hes.2).trans hes.1.2

namespace Observed

variable {p : Plan} {f : Fleet} {es : List FleetEvent} {moment : Nat → Nat} {s : FleetStatus}

/-- What became of the workers after the moment when they were looked at. -/
theorem becomes (hes : f.Along p (StaysInRun p) es) (n : Nat) :
    List.Forall₂ Worker.Becomes (f.afterAll p (es.take n)).crew (f.afterAll p es).crew := by
  rw [← List.take_append_drop n es] at hes
  have hgrows := crew_grows hes.of_append.2
  rwa [← afterAll_append, List.take_append_drop] at hgrows

/-- Each worker has a place in the status. -/
theorem length_eq (hs : f.Observed p es moment s) (hes : f.Along p (StaysInRun p) es) :
    s.devices.length = (f.afterAll p es).crew.length := by
  have hle (j : Nat) : s.devices.length ≤ j ↔ (f.afterAll p es).crew.length ≤ j := by
    rw [← List.getElem?_eq_none_iff, hs.devices j, Option.map_eq_none_iff,
      List.getElem?_eq_none_iff, (becomes hes (moment j)).length_eq]
  exact Nat.le_antisymm ((hle _).2 (Nat.le_refl _)) ((hle _).1 (Nat.le_refl _))

/-- What the status tells of a worker was so once. -/
theorem worker (hs : f.Observed p es moment s) (hes : f.Along p (StaysInRun p) es) {j : Nat}
    (hj : j < s.devices.length) (hj' : j < (f.afterAll p es).crew.length) :
    ∃ v ∈ (f.afterAll p (es.take (moment j))).crew,
      (f.afterAll p (es.take (moment j))).crew[j]? = some v ∧ s.devices[j] = v.progress ∧
        v.Becomes (f.afterAll p es).crew[j] := by
  have hbecomes := becomes hes (moment j)
  have hj'' : j < (f.afterAll p (es.take (moment j))).crew.length := hbecomes.length_eq.symm ▸ hj'
  refine ⟨_, List.getElem_mem hj'', List.getElem?_eq_getElem hj'', ?_, hbecomes.get hj'' hj'⟩
  have hseen := hs.devices j
  rw [List.getElem?_eq_getElem hj, List.getElem?_eq_getElem hj''] at hseen
  exact Option.some.inj hseen

/-- The workers have processed no less since. -/
theorem processed_le (hs : f.Observed p es moment s) (hes : f.Along p (StaysInRun p) es) :
    List.Forall₂ (fun d w => d.processed ≤ w.progress.processed) s.devices
      (f.afterAll p es).crew := by
  refine List.forall₂_of_length_eq_of_get (hs.length_eq hes) fun j hj hj' => ?_
  obtain ⟨v, -, -, hprogress, hbecomes⟩ := hs.worker hes hj hj'
  simp only [List.get_eq_getElem]
  rw [hprogress]
  exact hbecomes.processed

/-- Each worker has processed what succeeded and what failed. -/
theorem balanced {h : List Deed} {base : AccountQueue} (hs : f.Observed p es moment s)
    (hes : f.Along p (StaysInRun p) es) (hf : f.Faithful base h) (ht : f.Tallied h) :
    ∀ d ∈ s.devices, d.processed = d.succeeded + d.failed := by
  intro d hd
  obtain ⟨j, hj, rfl⟩ := List.getElem_of_mem hd
  obtain ⟨v, hv, -, hprogress, -⟩ := hs.worker hes hj (hs.length_eq hes ▸ hj)
  have hpart : f.Along p (StaysInRun p) (es.take (moment j)) := by
    rw [← List.take_append_drop (moment j) es] at hes
    exact hes.of_append.1
  rw [hprogress]
  exact (ht.along hf hpart).balanced v hv

/-- If each worker had ended when it was looked at, the status tells what is so at last. -/
theorem devices_eq (hs : f.Observed p es moment s) (hes : f.Along p (StaysInRun p) es)
    (hended : ∀ j w, (f.afterAll p (es.take (moment j))).crew[j]? = some w → w.phase = .ended) :
    s.devices = (f.afterAll p es).crew.map Worker.progress ∧
      ∀ w ∈ (f.afterAll p es).crew, w.phase = .ended := by
  have hlength := hs.length_eq hes
  have hlast {j : Nat} (hj : j < s.devices.length) (hj' : j < (f.afterAll p es).crew.length) :
      s.devices[j] = (f.afterAll p es).crew[j].progress ∧
        (f.afterAll p es).crew[j].phase = .ended := by
    obtain ⟨v, -, hseen, hprogress, hbecomes⟩ := hs.worker hes hj hj'
    have hend := hended j v hseen
    have hover : v.phase.isOver = true := by rw [hend]; rfl
    rw [hbecomes.isOver hover]
    exact ⟨hprogress, hend⟩
  refine ⟨List.ext_getElem ?_ fun j hj hj' => ?_, fun w hw => ?_⟩
  · rw [List.length_map, hlength]
  · rw [List.getElem_map]
    exact (hlast hj (hlength ▸ hj)).1
  · obtain ⟨j, hj, rfl⟩ := List.getElem_of_mem hw
    exact (hlast (hlength ▸ hj) hj).2

end Observed

/-! ## The numbers of a status -/

/-- Before its first event, the workers of a run have counted nothing. -/
theorem tallied_start {f : Fleet} {serials : List String}
    (h : f.crew = serials.map (recruit f.run)) : f.Tallied [] := by
  refine ⟨fun w hw => ?_, fun success => ?_⟩
  · rw [h] at hw
    obtain ⟨serial, -, rfl⟩ := List.mem_map.1 hw
    rfl
  · rw [h, List.map_map]
    have hzero : (fun w => w.tally success) ∘ recruit f.run = fun _ => 0 := by
      funext serial
      cases success <;> rfl
    rw [hzero, List.map_const', List.sum_replicate_nat, Nat.mul_zero]
    rfl

/-- In a run before which no run was stopped, in which the queue is called by the workers only: what
a status says to have been processed is at most what the queue has gained, and each device has
processed what succeeded and what failed. Once all workers have ended, it is all that the queue has
gained. If moreover the run was not stopped, a device was there, and the results of the cycles
depend on the accounts only, then outcomes and totals follow from the queue before the run. -/
theorem progress_accounted (p : Plan) (es₀ es : List FleetEvent) (hes₀ : Along p Regular {} es₀)
    {serials : List String} {resume : Bool} {f : Fleet}
    (hstart : (afterAll p {} es₀).start serials resume = (f, .ok ()))
    (hes : f.Along p (StaysInRun p) es) {moment : Nat → Nat} {s : FleetStatus}
    (hs : f.Observed p es moment s) :
    s.processed + f.queue.processedCount ≤ s.queue.processedCount ∧
      (∀ d ∈ s.devices, d.processed = d.succeeded + d.failed) ∧
      ((∀ j w, (f.afterAll p (es.take (moment j))).crew[j]? = some w → w.phase = .ended) →
        s.processed + f.queue.processedCount = s.queue.processedCount ∧
        ∀ verdict : String → Option String,
          (f.afterAll p es).isStopped f.run = false →
          (∃ serial, .connected f.run serial ∈ f.deeds p es) →
          (∀ a failure, .finished a (.ofFailure failure) ∈ f.deeds p es →
            failure = verdict a.id) →
          let q := prepared (afterAll p {} es₀).queue resume
          s.queue.outcomes = q.settled verdict ∧ s.processed = q.waiting.length ∧
            s.succeeded = q.waiting.countP (fun a => (verdict a.id).isNone) ∧
            s.failed = q.waiting.countP (fun a => (verdict a.id).isSome)) := by
  obtain ⟨hrest, hvalid, hcursor⟩ := start_finds_rest hes₀ hstart
  obtain ⟨hpoised, hqueue, hcrew⟩ := hrest.start hstart
  have hbegin : f.Faithful f.queue [] := hpoised.faithful hvalid hcursor
  have htallied : f.Tallied [] := tallied_start hcrew
  have hf : (f.afterAll p es).Faithful f.queue (f.deeds p es) :=
    hbegin.along (hes.mono fun _ _ => StaysInRun.goesOn)
  have ht : (f.afterAll p es).Tallied (f.deeds p es) := htallied.along hbegin hes
  have hgained : s.queue.processedCount =
      f.queue.processedCount + ((f.deeds p es).filterMap Deed.marked?).length := by
    rw [hs.queue, AccountQueue.processedCount, hf.ledger.processed, List.length_append]
    rfl
  refine ⟨?_, hs.balanced hes hbegin htallied, fun hended => ?_⟩
  · -- Each worker has processed no less since it was looked at.
    have hle : s.processed ≤ ((f.afterAll p es).crew.map fun w => w.progress.processed).sum := by
      refine List.Forall₂.sum_le_sum ?_
      rw [List.forall₂_map_left_iff, List.forall₂_map_right_iff]
      exact hs.processed_le hes
    have := ht.processed_le
    omega
  -- The workers have not changed since they were looked at.
  obtain ⟨hdevices, hend⟩ := hs.devices_eq hes hended
  have htotal (number : Progress → Nat) :
      s.total number = ((f.afterAll p es).crew.map fun w => number w.progress).sum := by
    rw [FleetStatus.total, hdevices, List.map_map]
    rfl
  have hprocessed : s.processed = ((f.deeds p es).filterMap Deed.marked?).length := by
    rw [FleetStatus.processed, htotal, ht.sum_processed hend]
  refine ⟨by omega, fun verdict hstopped hthere hverdict => ?_⟩
  obtain ⟨serial, hconnected⟩ := hthere
  -- The run was not told to stop, so it leaves no account out.
  have hrun : (f.afterAll p es).run = f.run := run_along hes
  have hlast (w : Worker) (hw : w ∈ (f.afterAll p es).workers)
      (hwrun : w.run = (f.afterAll p es).run) : w.phase = .ended :=
    hend w (List.mem_filter.2 ⟨hw, decide_eq_true hwrun⟩)
  have hall : (f.afterAll p es).queue.ids ⊆ (f.afterAll p es).queue.processed :=
    hf.all_processed hlast (hrun ▸ hstopped) (hrun.symm ▸ hconnected)
  have hcount (success : Bool) := hf.countP_marks hall hcursor hverdict success
  rw [← hqueue]
  refine ⟨?_, ?_, ?_, ?_⟩
  · rw [hs.queue]
    exact hf.outcomes_settled hall hverdict
  · rw [hprocessed, (hf.marked_perm hall hcursor).length_eq, List.length_map]
  · rw [FleetStatus.succeeded, htotal]
    calc ((f.afterAll p es).crew.map fun w => w.progress.counted true).sum
      _ = (f.deeds p es).countP (Deed.marksAs true) := ht.sum_counted hend true
      _ = f.queue.waiting.countP fun a => (verdict a.id).isNone == true := hcount true
      _ = f.queue.waiting.countP fun a => (verdict a.id).isNone := by simp only [beq_true]
  · rw [FleetStatus.failed, htotal]
    calc ((f.afterAll p es).crew.map fun w => w.progress.counted false).sum
      _ = (f.deeds p es).countP (Deed.marksAs false) := ht.sum_counted hend false
      _ = f.queue.waiting.countP fun a => (verdict a.id).isNone == false := hcount false
      _ = f.queue.waiting.countP fun a => (verdict a.id).isSome := by
          simp only [beq_false, Option.not_isNone]

/-- Three accounts are loaded, and one is marked before the run. -/
def oneMarked : List FleetEvent :=
  [.files AccountQueue.threeFiles, .call (.load AccountQueue.threeFiles "/in"),
    .call (.mark "a.xml" none)]

/-- A fleet with two accounts left. -/
def twoWaiting : Fleet :=
  { threeWaiting with
    queue := AccountQueue.threeAccounts.call promptPlan.settings.queue (.mark "a.xml" none) }

/-- Loading and marking leave the fleet with two accounts. -/
theorem afterAll_oneMarked : afterAll promptPlan {} oneMarked = twoWaiting := by
  have hload : AccountQueue.load promptPlan.settings.queue AccountQueue.threeFiles "/in" =
      .ok AccountQueue.threeAccounts :=
    (AccountQueue.load_congr rfl _ _).trans AccountQueue.load_threeFiles
  have hcall : ({} : AccountQueue).call promptPlan.settings.queue
      (.load AccountQueue.threeFiles "/in") = AccountQueue.threeAccounts := by
    rw [AccountQueue.call, hload, AccountQueue.settle]
  simp only [afterAll, oneMarked, List.foldl_cons, List.foldl_nil, after, hcall]
  rfl

/-- Two devices take turns. -/
def inTurns : List FleetEvent := turns 0 10 ++ turns 1 40 ++ turns 0 30

/-- Two devices process the two accounts that are left. -/
theorem two_accounts_in_turns :
    let f := (twoWaiting.start ["one", "two"] true).1
    let s := (f.afterAll promptPlan inTurns).status.2
    (afterAll promptPlan {} oneMarked).start ["one", "two"] true = (f, .ok ()) ∧
      f.Along promptPlan (StaysInRun promptPlan) inTurns ∧
      s.processed + f.queue.processedCount = s.queue.processedCount ∧
      (∀ d ∈ s.devices, d.processed = d.succeeded + d.failed) ∧
      s.queue.outcomes = (prepared twoWaiting.queue true).settled (fun _ => none) ∧
      s.processed = 2 ∧ s.succeeded = 2 ∧ s.failed = 0 := by
  intro f s
  have hnames : AccountQueue.threeFiles.DistinctNames :=
    FileTree.distinctNames_of_nodup (by decide)
  have hregular : Along promptPlan Regular {} oneMarked := ⟨trivial, hnames, trivial, trivial⟩
  have hstart : (afterAll promptPlan {} oneMarked).start ["one", "two"] true = (f, .ok ()) := by
    rw [afterAll_oneMarked]
    exact Prod.ext rfl (by decide +kernel)
  have hstays : f.Along promptPlan (StaysInRun promptPlan) inTurns := by decide +kernel
  have hended : ∀ w ∈ (f.afterAll promptPlan (inTurns.take inTurns.length)).crew,
      w.phase = .ended := by
    decide +kernel
  have hstopped : (f.afterAll promptPlan inTurns).isStopped f.run = false := by decide +kernel
  have hconnected : .connected f.run "one" ∈ f.deeds promptPlan inTurns := by decide +kernel
  have hcycles : ∀ d ∈ f.deeds promptPlan inTurns, d.finished? ≠ none →
      d ∈ [.finished ⟨"b.xml", "/in/b.xml", .pending⟩ .succeeded,
        .finished ⟨"c.xml", "/in/c.xml", .pending⟩ .succeeded] := by
    decide +kernel
  have hverdict (a : Account) (failure : Option String)
      (hm : .finished a (.ofFailure failure) ∈ f.deeds promptPlan inTurns) : failure = none := by
    cases failure with
    | none => rfl
    | some message =>
      have hmem := hcycles _ hm nofun
      simp only [AccountResult.ofFailure, List.mem_cons, Deed.finished.injEq, reduceCtorEq,
        and_false, List.not_mem_nil, or_self] at hmem
  have hwaiting : (prepared twoWaiting.queue true).waiting.length = 2 := by decide +kernel
  have hgood : (prepared twoWaiting.queue true).waiting.countP (fun _ => true) = 2 := by
    decide +kernel
  have hbad : (prepared twoWaiting.queue true).waiting.countP (fun _ => false) = 0 := by
    decide +kernel
  obtain ⟨-, hbalanced, hend⟩ := progress_accounted promptPlan oneMarked inTurns hregular hstart
    hstays (observed_status promptPlan f inTurns)
  obtain ⟨hsum, hsettles⟩ := hend fun j w hw => hended w (List.mem_of_getElem? hw)
  obtain ⟨houtcomes, hprocessed, hsucceeded, hfailed⟩ :=
    hsettles (fun _ => none) hstopped ⟨"one", hconnected⟩ hverdict
  rw [afterAll_oneMarked] at houtcomes hprocessed hsucceeded hfailed
  exact ⟨hstart, hstays, hsum, hbalanced, houtcomes, hprocessed.trans hwaiting,
    hsucceeded.trans hgood, hfailed.trans hbad⟩

end Fleet

end Autoplay
