import Autoplay.Proofs.Fleet.Winding

/-!
# Devices that are shared

Nothing keeps a device to one worker: a run has a worker for each entry of its list of devices, and
a stop does not wait forever for the workers of its run, so that they may be at work beside those of
the next one. The main statement, `device_shared_only_after_stop`, says how much is shared in this
way: a run has no more workers on a device than its list has entries for it, and whoever of a former
run is still at work when a run begins was told to stop, and gives its device no more than the
command under way and the rest of the sequence that it belongs to. That the commands of two cycles
can alternate on a device is shown by `cycles_alternate_on_device`.

Stops that end in a run that they were not told to are left aside (`EndsUntold`).
-/

namespace Autoplay

/-- A step keeps the device of the worker. -/
theorem Bench.Step.serial_eq {p : Plan} {stopped : Bool} {b b' : Bench} {d : Option Deed}
    (step : Step p stopped b b' d) :
    b'.worker.progress.serial = b.worker.progress.serial := by
  cases step with
  | counted a failure => cases failure <;> rfl
  | _ => rfl

namespace Fleet

variable {p : Plan}

/-! ## The workers of a run on a device -/

/-- The runs and devices of the workers of a fleet. -/
def posts (f : Fleet) : List (Nat × String) := f.workers.map fun w => (w.run, w.progress.serial)

/-- A member of a list that is replaced by one with the same value leaves the values as they are. -/
theorem map_set_eq {α β : Type} {l : List α} {i : Nat} {a b : α} {g : α → β} (h : l[i]? = some a)
    (hb : g b = g a) : (l.set i b).map g = l.map g := by
  obtain ⟨hlt, rfl⟩ := List.getElem?_eq_some_iff.1 h
  calc (l.set i b).map g = (l.map g).set i (g l[i]) := by rw [List.map_set, hb]
    _ = (l.set i l[i]).map g := List.map_set.symm
    _ = l.map g := by rw [List.set_getElem_self]

/-- A run that begins has new posts. -/
theorem posts_beginRun (f : Fleet) (serials : List String) (resume : Bool) :
    (f.beginRun serials resume).posts =
      f.posts ++ serials.map fun serial => (f.run + 1, serial) := by
  rw [posts, posts, beginRun, List.map_append, List.map_map]
  rfl

/-- Posts stay as they are until a run begins, which has new ones. -/
theorem posts_after (p : Plan) (f : Fleet) (x : Incident) :
    (f.afterIncident p x).posts = f.posts ∨ ∃ serials : List String,
      (f.afterIncident p x).run = f.run + 1 ∧
        (f.afterIncident p x).posts = f.posts ++ serials.map fun serial => (f.run + 1, serial) := by
  cases x with
  | breakdown i =>
    obtain hsame | ⟨w, q, hw, -, hbroken⟩ := f.breakDown_cases i
    · rw [afterIncident, hsame]
      exact .inl rfl
    · rw [afterIncident, hbroken]
      exact .inl (map_set_eq hw rfl)
  | attempt serials resume hitches =>
    obtain ⟨state, e, -, -, hfails⟩ | ⟨-, hbegins⟩ := f.beginStart_cases serials resume hitches
    · rw [afterIncident, hfails]
      exact .inl rfl
    · rw [afterIncident, hbegins]
      exact .inr ⟨_, rfl, posts_beginRun f _ resume⟩
  | giveUp => exact .inl rfl
  | event e =>
    have hchange := f.after_change p e
    generalize f.deed e = d at hchange
    show (f.after p e).posts = _ ∨ ∃ _, (f.after p e).run = _ ∧ (f.after p e).posts = _
    generalize f.after p e = f' at hchange ⊢
    cases hchange with
    | still _ workers | called _ _ workers => exact .inl (by rw [posts, workers]; rfl)
    | worked hw step _ workers =>
      rw [posts, workers]
      exact .inl (map_set_eq hw (by rw [step.run_eq, step.serial_eq]))
    | @started serials resume _ _ workers run =>
      refine .inr ⟨serials, run, ?_⟩
      rw [posts, workers, List.map_append, List.map_map]
      rfl

/-- The posts of a run that has begun stay the same in number. -/
theorem count_posts {f : Fleet} (xs : List Incident) {run : Nat} (hrun : run ≤ f.run)
    (serial : String) :
    (f.afterIncidents p xs).posts.count (run, serial) = f.posts.count (run, serial) := by
  induction xs generalizing f with
  | nil => rfl
  | cons x xs ih =>
    have hlater : run ≤ (f.afterIncident p x).run :=
      Nat.le_trans hrun (f.run_le_afterIncident p x)
    refine (ih hlater).trans ?_
    obtain hsame | ⟨serials, -, hnew⟩ := f.posts_after p x
    · rw [hsame]
    · -- The new ones belong to another run.
      have hnone : (serials.map fun serial => (f.run + 1, serial)).count (run, serial) = 0 := by
        refine List.count_eq_zero.2 fun hmem => ?_
        obtain ⟨_, -, heq⟩ := List.mem_map.1 hmem
        have hrun' : f.run + 1 = run := congrArg Prod.fst heq
        omega
      rw [hnew, List.count_append, hnone, Nat.add_zero]

/-- A run that begins has a worker on a device for each entry of its list, then and later. -/
theorem countP_of_start {f f' : Fleet} {serials : List String} {resume : Bool}
    (hstart : f.start serials resume = (f', .ok ())) (hruns : ∀ w ∈ f.workers, w.run ≤ f.run)
    (xs : List Incident) (serial : String) :
    (f'.afterIncidents p xs).workers.countP (fun w => w.run = f'.run ∧ w.progress.serial = serial) =
      serials.count serial := by
  obtain ⟨_, _, -, hfails⟩ | ⟨-, hbegins⟩ := f.start_cases serials resume
  · exact nomatch hfails.symm.trans hstart
  obtain ⟨hf', -⟩ := Prod.mk.inj (hbegins.symm.trans hstart)
  have hrun : f'.run = f.run + 1 := congrArg Fleet.run hf'.symm
  have hposts : f'.posts = f.posts ++ serials.map fun serial => (f.run + 1, serial) := by
    rw [← hf']
    exact posts_beginRun f serials resume
  have hformer : f.posts.count (f.run + 1, serial) = 0 := by
    refine List.count_eq_zero.2 fun hmem => ?_
    obtain ⟨w, hw, heq⟩ := List.mem_map.1 hmem
    have hle : w.run ≤ f.run := hruns w hw
    have hw' : w.run = f.run + 1 := congrArg Prod.fst heq
    omega
  have hinj : Function.Injective fun serial : String => (f.run + 1, serial) :=
    fun _ _ h => congrArg Prod.snd h
  calc (f'.afterIncidents p xs).workers.countP
        (fun w => w.run = f'.run ∧ w.progress.serial = serial)
    _ = (f'.afterIncidents p xs).posts.count (f'.run, serial) := by
        rw [posts, List.count, List.countP_map]
        refine List.countP_congr fun w _ => ?_
        simp only [decide_eq_true_eq, Function.comp_apply, beq_iff_eq, Prod.mk.injEq]
    _ = f'.posts.count (f'.run, serial) := count_posts xs (Nat.le_refl _) serial
    _ = serials.count serial := by
        rw [hposts, hrun, List.count_append, hformer, Nat.zero_add,
          List.count_map_of_injective _ _ hinj]

/-! ## Who is still at work when a run begins -/

/-- A stop ended when a run was the last one and had not been told to stop. -/
def EndsUntold (p : Plan) (xs : List Incident) (run : Nat) : Prop :=
  ∃ earlier later, xs = earlier ++ .event .endStop :: later ∧
    (afterIncidents p {} earlier).run = run ∧ (afterIncidents p {} earlier).isStopped run = false

/-- The runs of a fleet overlap only by workers of runs that were told to stop, or in which a stop
ended that they were not told. -/
theorem separate_afterIncidents (p : Plan) (xs : List Incident) :
    Separate (fun run => (afterIncidents p {} xs).isStopped run = true ∨ EndsUntold p xs run)
      (afterIncidents p {} xs) := by
  induction xs using List.reverseRecOn with
  | nil => exact .empty
  | append_singleton xs x ih =>
    have hafter : afterIncidents p {} (xs ++ [x]) = (afterIncidents p {} xs).afterIncident p x :=
      afterIncidents_append p {} xs [x]
    have htold {run : Nat} (h : (afterIncidents p {} xs).isStopped run = true) :
        (afterIncidents p {} (xs ++ [x])).isStopped run = true := by
      have hmem : run ∈ (afterIncidents p {} xs).stopped := of_decide_eq_true h
      rw [hafter]
      exact decide_eq_true (stopped_subset _ [x] hmem)
    -- A stop that ends is told to the last run or not; a start that gives up tells it.
    have hnext : Separate (fun run => (afterIncidents p {} (xs ++ [x])).isStopped run = true ∨
        EndsUntold p (xs ++ [x]) run) ((afterIncidents p {} xs).afterIncident p x) := by
      refine ih.after (fun run h => h.imp htold ?_) fun hx => ?_
      · rintro ⟨earlier, later, rfl, hrun, huntold⟩
        exact ⟨earlier, later ++ [x], by rw [List.append_assoc, List.cons_append], hrun, huntold⟩
      · obtain rfl | rfl := Incident.idles_iff.1 hx
        · cases hlast : (afterIncidents p {} xs).isStopped (afterIncidents p {} xs).run with
          | true => exact .inl (htold hlast)
          | false => exact .inr ⟨xs, [], rfl, rfl, hlast⟩
        · rw [hafter]
          exact .inl (decide_eq_true List.mem_cons_self)
    rwa [← hafter] at hnext

/-- Take a start that succeeds. The run that it begins has, then and later, as many workers on a
device as its list of devices has entries for it. Whoever of a former run is still at work then was
told to stop, unless a stop ended in that run that it was not told. Who was told gives its device
from then on no more than the command under way and the rest of the copying or of the export that
this command belongs to. -/
theorem device_shared_only_after_stop (p : Plan) (before xs : List Incident) {serials : List String}
    {resume : Bool} {f : Fleet}
    (hstart : (afterIncidents p {} before).start serials resume = (f, .ok ())) :
    (∀ serial, (f.afterIncidents p xs).workers.countP
        (fun w => w.run = f.run ∧ w.progress.serial = serial) = serials.count serial) ∧
      ∀ i w, f.workers[i]? = some w → w.run ≠ f.run → w.phase.isOver = false →
        (f.isStopped w.run = true ∨ EndsUntold p before w.run) ∧
          (f.isStopped w.run = true → Remainder p.settings.Sequence (f.commands p i xs)) := by
  have hseparate := separate_afterIncidents p before
  refine ⟨countP_of_start hstart hseparate.runs xs, fun i w hw hformer hwork => ?_⟩
  refine ⟨?_, fun htold => ?_⟩
  · -- The worker was there before the start, which succeeds only if the last run is over.
    obtain ⟨_, _, -, hfails⟩ | ⟨hfree, hbegins⟩ :=
      (afterIncidents p {} before).start_cases serials resume
    · exact nomatch hfails.symm.trans hstart
    obtain ⟨hafter, -⟩ := Prod.mk.inj (hbegins.symm.trans hstart)
    have hold : w ∈ (afterIncidents p {} before).workers := by
      have hmem : w ∈ f.workers := List.mem_of_getElem? hw
      rw [← hafter] at hmem hformer
      obtain hold | ⟨serial, rfl⟩ := mem_recruits hmem
      · exact hold
      · exact absurd rfl hformer
    obtain hended | htold | huntold := hseparate.ended hfree w hold
    · rw [hended] at hwork
      exact nomatch hwork
    · have hstopped : f.stopped = (afterIncidents p {} before).stopped := by
        rw [← hafter]
        rfl
      rw [isStopped, hstopped]
      exact .inl htold
    · exact .inr huntold
  · have hf : afterIncidents p {} (before ++ [.event (.start serials resume)]) = f := by
      rw [afterIncidents_append]
      exact congrArg Prod.fst hstart
    rw [← hf] at hw htold ⊢
    exact commands_of_stopped p _ xs hw htold

/-- A run of one device is told to stop while the account file is copied into its place, and the
stop ends before the device answers. -/
def copying : List Incident :=
  oneBegins.map .event ++ (turns 0 10 ++ [FleetEvent.beginStop, .endStop]).map .event

/-- The fleet when the stop has ended. -/
theorem afterIncidents_copying : afterIncidents promptPlan {} copying =
    (twoWaiting.start ["one"] true).1.afterAll promptPlan
      (turns 0 10 ++ [.beginStop, .endStop]) := by
  rw [copying, afterIncidents_append, afterIncidents_oneBegins, afterIncidents_events]

/-- The device is started again, and has one worker of the new run. The other one copies its account
file to the end, and gives no other command. -/
theorem copy_ends_beside_next_run :
    let f := ((afterIncidents promptPlan {} copying).start ["one"] false).1
    let game := promptPlan.settings.game
    (afterIncidents promptPlan {} copying).start ["one"] false = (f, .ok ()) ∧
      f.workers.countP (fun w => w.run = f.run ∧ w.progress.serial = "one") = 1 ∧
      ∃ w, f.workers[0]? = some w ∧ w.run ≠ f.run ∧ w.phase.isOver = false ∧
        f.isStopped w.run = true ∧
        f.commands promptPlan 0 ((turns 0 20).map .event) =
          copyCommands game.pushTempPath game.prefPath "system:system" ∧
        Remainder promptPlan.settings.Sequence
          (f.commands promptPlan 0 ((turns 0 20).map .event)) := by
  intro f game
  have hf : f = (((twoWaiting.start ["one"] true).1.afterAll promptPlan
      (turns 0 10 ++ [.beginStop, .endStop])).start ["one"] false).1 := by
    show ((afterIncidents promptPlan {} copying).start ["one"] false).1 = _
    rw [afterIncidents_copying]
  have hstart : (afterIncidents promptPlan {} copying).start ["one"] false = (f, .ok ()) := by
    refine Prod.ext rfl ?_
    rw [afterIncidents_copying]
    decide +kernel
  have hsome : (f.workers[0]?).isSome = true := by
    rw [hf]
    decide +kernel
  have hfirst : ∀ w ∈ f.workers[0]?,
      w.run ≠ f.run ∧ w.phase.isOver = false ∧ f.isStopped w.run = true := by
    rw [hf]
    decide +kernel
  have hcommands : f.commands promptPlan 0 ((turns 0 20).map .event) =
      copyCommands game.pushTempPath game.prefPath "system:system" := by
    rw [hf]
    decide +kernel
  obtain ⟨w, hw⟩ := Option.isSome_iff_exists.1 hsome
  obtain ⟨hformer, hwork, hstopped⟩ := hfirst w hw
  obtain ⟨hcount, hremains⟩ := device_shared_only_after_stop promptPlan copying
    ((turns 0 20).map .event) hstart
  obtain ⟨-, hremains⟩ := hremains 0 w hw hformer hwork
  obtain ⟨hnow, -⟩ := device_shared_only_after_stop promptPlan copying [] hstart
  exact ⟨hstart, hnow "one", w, hw, hformer, hwork, hstopped, hcommands, hremains hstopped⟩

/-- The workers of both runs are at work on the device, and their commands alternate: while the
other account file is copied into its place, the first copying goes on. A list that has two entries
for a device gives it two workers at once. -/
theorem cycles_alternate_on_device :
    let f := ((afterIncidents promptPlan {} copying).start ["one"] false).1
    let g := f.afterIncidents promptPlan ((turns 1 10).map .event)
    let h := g.afterIncidents promptPlan ((turns 0 4).map .event)
    let twice := ((afterAll promptPlan {} oneMarked).start ["one", "one"] true).1
    let game := promptPlan.settings.game
    g.workers.map (fun w => (w.run, w.progress.serial, w.phase.atWork)) =
        [(1, "one", true), (2, "one", true)] ∧
      f.commands promptPlan 1 ((turns 1 10).map .event) =
        [.connect, .forceStop game.package, .push "/in/a.xml" game.pushTempPath,
          .privileged ("cp '" ++ game.pushTempPath ++ "' '" ++ game.prefPath ++ "'")] ∧
      g.commands promptPlan 0 ((turns 0 4).map .event) =
        copyCommands game.pushTempPath game.prefPath "system:system" ∧
      h.commands promptPlan 1 ((turns 1 4).map .event) =
        copyCommands game.pushTempPath game.prefPath "system:system" ∧
      (twice.afterAll promptPlan (turns 0 5 ++ turns 1 5)).workers.map
          (fun w => (w.run, w.progress.serial, w.phase.atWork)) =
        [(1, "one", true), (1, "one", true)] := by
  intro f g h twice game
  have hf : f = (((twoWaiting.start ["one"] true).1.afterAll promptPlan
      (turns 0 10 ++ [.beginStop, .endStop])).start ["one"] false).1 := by
    show ((afterIncidents promptPlan {} copying).start ["one"] false).1 = _
    rw [afterIncidents_copying]
  have htwice : twice = (twoWaiting.start ["one", "one"] true).1 := by
    show ((afterAll promptPlan {} oneMarked).start ["one", "one"] true).1 = _
    rw [afterAll_oneMarked]
  have hg : g = f.afterIncidents promptPlan ((turns 1 10).map .event) := rfl
  have hh : h = g.afterIncidents promptPlan ((turns 0 4).map .event) := rfl
  rw [hh, hg, hf, htwice]
  decide +kernel

end Fleet

end Autoplay
