import Autoplay.Proofs.Fleet.Starting

/-!
# Each account is completed once

A queue is worked off in several runs, each of which goes on with what the runs before it left. The
main statement, `completed_once`, is about all of them together, with the workers of a run in any
order and a stop at any moment: what a cycle has completed is never handed out again, each account
is marked after one cycle and keeps the result of that one, a cycle that was told to stop leaves its
account to the runs to come, and when a run comes to its end that was not told to stop, with a
device that was there, every account has been completed exactly once.

The proof reads this off `Fleet.Faithful`, which all events keep.
-/

namespace Autoplay

/-- Two members of a list from which something is taken once are the same if it is the same. -/
theorem eq_of_nodup_filterMap {α β : Type} {g : α → Option β} {l : List α}
    (h : (l.filterMap g).Nodup) {a b : α} (ha : a ∈ l) (hb : b ∈ l) {c : β} (hga : g a = some c)
    (hgb : g b = some c) : a = b := by
  by_contra hne
  have hsymm : Std.Symm fun a b : α => ∀ x, g a = some x → ∀ y, g b = some y → x ≠ y :=
    ⟨fun _ _ hr x hx y hy e => hr y hy x hx e.symm⟩
  have hpairs := List.pairwise_filterMap.1 h
  exact hpairs.forall ha hb hne c hga c hgb rfl

namespace AccountQueue

variable {q : AccountQueue}

/-- What is not done with remains. -/
theorem Valid.remaining_pos (hq : q.Valid) {id : String} (hid : id ∈ q.ids)
    (hnot : id ∉ q.processed) : 0 < q.remaining := by
  have hnodup : (id :: q.processed).Nodup := List.nodup_cons.2 ⟨hnot, hq.nodup⟩
  have hsub : id :: q.processed ⊆ q.ids := List.cons_subset.2 ⟨hid, hq.known⟩
  have hlen := (hnodup.subperm hsub).length_le
  rw [List.length_cons, ids, List.length_map] at hlen
  rw [remaining, total, processedCount]
  omega

/-- When everything is done with, nothing remains. -/
theorem Valid.remaining_eq_zero (hq : q.Valid) (h : q.ids ⊆ q.processed) : q.remaining = 0 := by
  have hlen := (hq.ids_nodup.subperm h).length_le
  rw [ids, List.length_map] at hlen
  rw [remaining, total, processedCount]
  omega

/-- What is not done with is pending, and waits for a run that goes on. -/
theorem Valid.waits (hq : q.Valid) {id : String} (hid : id ∈ q.ids) (hnot : id ∉ q.processed) :
    (id, .pending) ∈ q.outcomes ∧ id ∈ (Fleet.prepared q true).waiting.map Account.id := by
  have hprepared : Fleet.prepared q true = q.rewind := by
    rw [Fleet.prepared, Bool.true_and, if_pos (decide_eq_true (hq.remaining_pos hid hnot))]
  obtain ⟨a, ha, rfl⟩ := List.mem_map.1 hid
  refine ⟨List.mem_map.2 ⟨a, ha, ?_⟩, List.mem_map.2 ⟨a, ?_, rfl⟩⟩
  · rw [(hq.pending_iff a ha).2 hnot]
  · rw [hprepared, waiting]
    exact List.mem_filter.2 ⟨ha, decide_eq_true hnot⟩

end AccountQueue

namespace Fleet

namespace Faithful

variable {base : AccountQueue} {h : List Deed} {f : Fleet}

/-- No account is marked twice. -/
theorem marked_nodup (hf : f.Faithful base h) : (h.filterMap Deed.marked?).Nodup := by
  have hnodup := hf.holding.holds.valid.nodup
  rw [hf.ledger.processed] at hnodup
  exact (List.nodup_append.1 hnodup).2.1

/-- No account is completed twice. -/
theorem finished_nodup (hf : f.Faithful base h) : (h.filterMap Deed.finished?).Nodup := by
  have hnodup : (f.held ++ f.queue.processed).Nodup := hf.holding.holds.nodup
  have hmarking : (f.workers.flatMap Worker.marking).Sublist f.held :=
    List.Sublist.flatMap_right f.workers fun w _ => w.marking_sublist
  rw [hf.ledger.processed] at hnodup
  rw [hf.ledger.finished.nodup_iff, List.perm_append_comm.nodup_iff]
  exact hnodup.sublist (hmarking.append (List.sublist_append_right _ _))

/-- What was marked last is what the queue says. -/
theorem outcome_of_marked (hf : f.Faithful base h) {a : Account} {failure : Option String}
    (hm : .marked a failure ∈ h) : (a.id, .ofFailure failure) ∈ f.queue.outcomes := by
  have hid : a.id ∈ h.filterMap Deed.marked? := List.mem_filterMap.2 ⟨_, hm, rfl⟩
  have hprocessed : a.id ∈ f.queue.processed := by
    rw [hf.ledger.processed]
    exact List.mem_append_right _ hid
  obtain ⟨b, hb, hba⟩ := List.mem_map.1 (hf.holding.holds.valid.known _ hprocessed)
  have hout : (b.id, b.outcome) ∈ f.queue.outcomes := List.mem_map.2 ⟨b, hb, rfl⟩
  obtain ⟨-, hnot⟩ | ⟨c, failure', hm', hx⟩ := hf.ledger.outcomes _ hout
  · exact absurd (hba ▸ hid) hnot
  · obtain ⟨hbc, houtcome⟩ := Prod.mk.inj hx
    -- The account was marked once, so both results are the same.
    have hsame : Deed.marked a failure = .marked c failure' :=
      eq_of_nodup_filterMap hf.marked_nodup hm hm' (c := a.id) rfl
        (congrArg some (hbc.symm.trans hba))
    obtain ⟨-, rfl⟩ := Deed.marked.inj hsame
    rw [← hba, ← houtcome]
    exact hout

/-- A cycle that was told to stop was not for an account that had been completed. -/
theorem not_finished_before (hf : f.Faithful base h) {a : Account} {h₁ h₂ : List Deed}
    (hh : h = h₁ ++ .finished a .aborted :: h₂) (hlater : a.id ∉ h₂.filterMap Deed.finished?) :
    a.id ∉ h.filterMap Deed.finished? := by
  have horder := hf.ledger.order
  rw [hh] at horder ⊢
  intro hid
  obtain ⟨d, hd, hfinished⟩ := List.mem_filterMap.1 hid
  obtain hd | hd := List.mem_append.1 hd
  · -- A cycle that completed the account before rules out that it was open again.
    exact (List.pairwise_append.1 horder).2.2 d hd _ List.mem_cons_self a.id hfinished rfl
  · obtain rfl | hd := List.mem_cons.1 hd
    · exact nomatch hfinished
    · exact hlater (List.mem_filterMap.2 ⟨d, hd, hfinished⟩)

/-- What has not been completed has not been marked. -/
theorem marked_subset (hf : f.Faithful base h) :
    h.filterMap Deed.marked? ⊆ h.filterMap Deed.finished? :=
  fun _ hid => hf.ledger.finished.mem_iff.2 (List.mem_append_left _ hid)

/-- At the end of a run that was not told to stop and in which nobody broke down, the work of all
workers is over. -/
theorem over_of_ended (hf : f.Faithful base h)
    (hended : ∀ w ∈ f.workers, w.run = f.run → w.phase = .ended) :
    ∀ w ∈ f.workers, w.phase.isOver = true := by
  intro w hw
  by_cases hrun : w.run = f.run
  · rw [hended w hw hrun]
    rfl
  · exact hf.holding.former w hw hrun

/-- At the end of such a run, with a device that was there, all accounts are done with. -/
theorem all_processed (hf : f.Faithful base h)
    (hended : ∀ w ∈ f.workers, w.run = f.run → w.phase = .ended)
    (hstopped : f.isStopped f.run = false) {serial : String}
    (hconnected : .connected f.run serial ∈ h) : f.queue.ids ⊆ f.queue.processed := by
  have hover := hf.over_of_ended hended
  have hunharmed : f.Unharmed := by
    refine ⟨hstopped, fun w hw hrun hcrash => ?_⟩
    rw [hended w hw hrun] at hcrash
    exact nomatch hcrash
  have haccounted := hf.thorough.accounted hunharmed
  rw [held_eq_nil hover] at haccounted
  obtain ⟨w, hw, hwork⟩ | hpassed := hf.thorough.atWork hunharmed ⟨serial, hconnected⟩
  · exact nomatch (Phase.isOver_eq_false hwork).symm.trans (hover w hw)
  · -- The cursor has passed all accounts, and nobody holds one.
    intro id hid
    rw [AccountQueue.Accounted, List.take_of_length_le hpassed] at haccounted
    exact (haccounted id hid).resolve_left List.not_mem_nil

end Faithful

/-- Nobody else calls the queue, and a start that begins a run goes on with what is left, of which
there is some, and finds all workers at the end of their work. -/
def Resumes (f : Fleet) : FleetEvent → Prop
  | .start serials resume =>
    (f.start serials resume).2 = .ok () →
      resume = true ∧ 0 < f.queue.remaining ∧ ∀ w ∈ f.workers, w.phase.isOver = true
  | .call _ => False
  | _ => True

/-- Such a start does not start the accounts over. -/
theorem Resumes.goesOn {p : Plan} {f : Fleet} {e : FleetEvent} (he : f.Resumes e) :
    f.GoesOn p e := by
  refine ⟨by cases e <;> first | rfl | exact he.elim, fun hrun => ?_⟩
  have hchange := f.after_change p e
  generalize f.deed e = d at hchange
  cases hchange with
  | still _ _ run => exact absurd run hrun
  | called _ _ _ run => exact absurd run hrun
  | worked _ _ _ _ run => exact absurd run hrun
  | @started serials resume hstart queue =>
    subst hstart
    obtain ⟨state, error, -, hfails⟩ | ⟨-, hbegins⟩ := f.start_cases serials resume
    · exact absurd (congrArg (fun r => r.1.run) hfails) hrun
    · obtain ⟨rfl, hleft, hover⟩ := he (congrArg Prod.snd hbegins)
      refine ⟨?_, hover⟩
      rw [queue, prepared, Bool.true_and, if_pos (decide_eq_true hleft)]

instance decidableResumes (f : Fleet) : (e : FleetEvent) → Decidable (f.Resumes e)
  | .start serials resume =>
    inferInstanceAs (Decidable ((f.start serials resume).2 = .ok () →
      resume = true ∧ 0 < f.queue.remaining ∧ ∀ w ∈ f.workers, w.phase.isOver = true))
  | .act _ => .isTrue trivial
  | .answer _ _ => .isTrue trivial
  | .beginStop => .isTrue trivial
  | .endStop => .isTrue trivial
  | .look => .isTrue trivial
  | .files _ => .isTrue trivial
  | .call _ => .isFalse id

/-- From a loaded queue on, over any number of runs that go on with what is left, with any devices
and the workers of a run in any order: an account whose cycle succeeded or failed is not handed out
again; no account is marked twice or without such a cycle, and what the queue says of it is what
that cycle gave; an account whose cycle was told to stop, and not completed since, is pending, not
marked, and waits for the next run. When the workers of a run come to their end that was not told
to stop and had a device, nothing remains, and each account was completed in exactly one cycle. -/
theorem completed_once (p : Plan) (f₀ : Fleet) (es : List FleetEvent) {s : QueueSettings}
    {t : FileTree} {folder : String} (ht : t.DistinctNames)
    (hload : AccountQueue.load s t folder = .ok f₀.queue) (hrest : f₀.AtRest)
    (hes : f₀.Along p Resumes es) :
    let f := f₀.afterAll p es
    let h := f₀.deeds p es
    (h.Pairwise fun d e => ∀ id, d.finished? = some id → ∀ a, e = .took a → a.id ≠ id) ∧
      ((h.filterMap Deed.finished?).Nodup ∧ (h.filterMap Deed.marked?).Nodup ∧
        (∀ a failure, .marked a failure ∈ h →
          .finished a (.ofFailure failure) ∈ h ∧ (a.id, .ofFailure failure) ∈ f.queue.outcomes) ∧
        ∀ id ∈ f.queue.ids, id ∉ h.filterMap Deed.marked? → (id, .pending) ∈ f.queue.outcomes) ∧
      (∀ h₁ a h₂, h = h₁ ++ .finished a .aborted :: h₂ → a.id ∉ h₂.filterMap Deed.finished? →
        a.id ∉ h.filterMap Deed.marked? ∧ (a.id, .pending) ∈ f.queue.outcomes ∧
          a.id ∈ (prepared f.queue true).waiting.map Account.id) ∧
      ((∀ w ∈ f.workers, w.run = f.run → w.phase = .ended) → f.isStopped f.run = false →
        (∃ serial, .connected f.run serial ∈ h) →
        f.queue.remaining = 0 ∧
          ∀ id ∈ f₀.queue.ids, (h.filterMap Deed.finished?).count id = 1) := by
  intro f h
  obtain ⟨hloaded, hnone, hcursor⟩ := AccountQueue.load_valid ht hload
  have hf : f.Faithful f₀.queue h :=
    (hrest.poised.faithful hloaded hcursor).along (hes.mono fun _ _ => Resumes.goesOn)
  have hvalid : f.queue.Valid := hf.holding.holds.valid
  have hprocessed : f.queue.processed = h.filterMap Deed.marked? := by
    rw [hf.ledger.processed, hnone, List.nil_append]
  have hwaits {id : String} (hid : id ∈ f.queue.ids) (hnot : id ∉ h.filterMap Deed.marked?) :=
    hvalid.waits hid (hprocessed ▸ hnot)
  refine ⟨?_, ⟨hf.finished_nodup, hf.marked_nodup, fun a failure hm => ?_, fun id hid hnot => ?_⟩,
    fun h₁ a h₂ hh hlater => ?_, fun hended hstopped ⟨serial, hconnected⟩ => ?_⟩
  · refine hf.ledger.order.imp fun hopen id hid a ha hne => hopen id hid ?_
    rw [ha, ← hne]
    rfl
  · exact ⟨hf.ledger.cycles a failure hm, hf.outcome_of_marked hm⟩
  · exact (hwaits hid hnot).1
  · -- A cycle that was told to stop leaves its account as it was.
    have hmem : Deed.finished a .aborted ∈ h := by
      rw [hh]
      exact List.mem_append_right _ List.mem_cons_self
    have hunmarked : a.id ∉ h.filterMap Deed.marked? :=
      fun hm => hf.not_finished_before hh hlater (hf.marked_subset hm)
    exact ⟨hunmarked, hwaits (hf.ledger.known a _ hmem) hunmarked⟩
  · -- At the end of a run that was not told to stop, all accounts are done with.
    have hall : f.queue.ids ⊆ f.queue.processed := hf.all_processed hended hstopped hconnected
    refine ⟨hvalid.remaining_eq_zero hall, fun id hid => ?_⟩
    have hmarked : id ∈ h.filterMap Deed.marked? := hprocessed ▸ hall (hf.ledger.ids ▸ hid)
    exact List.count_eq_one_of_mem hf.finished_nodup (hf.marked_subset hmarked)

/-- A plan without waiting times and with a workflow that does nothing. -/
def promptPlan : Plan where
  settings :=
    { timing :=
        { appCloseWait := 0.0, postPushWait := 0.0, loadTimeout := 0.0, readyPoll := 0.0
          beforeCloseWait := 0.0, betweenAccounts := 0.0 }
      game := { clearCache := false }
      queue := { moveOnComplete := false } }
  workflow := some {}
  rounds := 1

/-- A device on which files can be put in place. -/
def willing : (q : Request) → q.Answer
  | .command .connect => .ok ()
  | .command (.push _ _) => .ok ()
  | .command (.privileged _) => .ok ""
  | .command _ => .error .undecodable
  | .find .. => .ok none
  | .findAll .. => .ok []
  | .readText .. => .ok ""
  | .stopRequested => false
  | .pause _ => false
  | .clock => 0
  | .today => ⟨1970, 1, 1⟩
  | .makeFolders _ => .ok ()
  | .note _ => ()

/-- A worker acts some times, and gets the answers that it waits for. -/
def turns (i n : Nat) : List FleetEvent := (List.replicate n [.answer i willing, .act i]).flatten

/-- Three accounts in a fleet at rest. -/
def threeWaiting : Fleet where
  queue := AccountQueue.threeAccounts
  files := AccountQueue.threeFiles

/-- Two devices begin, and are told to stop when the first account is done with and the second is
under way; a third device does the rest in another run. -/
def relay : List FleetEvent :=
  .start ["one", "two"] true :: turns 0 25 ++ turns 1 10 ++ .beginStop :: turns 0 10 ++
    turns 1 10 ++ .endStop :: .start ["three"] true :: turns 2 60

/-- The account of the cycle that was told to stop is completed by the other run, so in the end each
of the three was completed in exactly one cycle. -/
theorem three_accounts_in_relay :
    let f := threeWaiting.afterAll promptPlan relay
    let h := threeWaiting.deeds promptPlan relay
    threeWaiting.Along promptPlan Resumes relay ∧
      .finished ⟨"b.xml", "/in/b.xml", .pending⟩ .aborted ∈ h ∧
      f.queue.remaining = 0 ∧
      ∀ id ∈ threeWaiting.queue.ids, (h.filterMap Deed.finished?).count id = 1 := by
  intro f h
  have hnames : AccountQueue.threeFiles.DistinctNames :=
    FileTree.distinctNames_of_nodup (by decide)
  have hrest : threeWaiting.AtRest := .of_noWorkers rfl
  have hresumes : threeWaiting.Along promptPlan Resumes relay := by decide +kernel
  have hended : ∀ w ∈ f.workers, w.run = f.run → w.phase = .ended := by decide +kernel
  have hstopped : f.isStopped f.run = false := by decide +kernel
  have hconnected : .connected f.run "three" ∈ h := by decide +kernel
  have haborted : .finished ⟨"b.xml", "/in/b.xml", .pending⟩ .aborted ∈ h := by decide +kernel
  obtain ⟨-, -, -, hend⟩ := completed_once promptPlan threeWaiting relay hnames
    AccountQueue.load_threeFiles hrest hresumes
  obtain ⟨hremaining, honce⟩ := hend hended hstopped ⟨"three", hconnected⟩
  exact ⟨hresumes, haborted, hremaining, honce⟩

end Fleet

end Autoplay
