import Mathlib.Data.List.Chain
import Autoplay.Proofs.Run.Order
import Autoplay.Proofs.Run.Outcome

/-!
# The way of a run through its workflow

A run begins steps on its own one after the other: the first one that is no member of a repeated
group, and after each one the first such step from where the step leads to. Members of repeated
groups begin only in a repetition of their group. The run succeeds when no step is left; otherwise
it ends with a step that fails or with a stop. The main statement is `steps_in_program_order`.
-/

namespace Autoplay

/-! ## Steps on their own -/

namespace Workflow

/-- A step only runs as a member of a group that some step repeats. -/
def Looped (w : Workflow) (s : Step) : Prop :=
  s.action.isRepeat = false ∧
    ∃ group, s.group = some group ∧ ∃ r ∈ w.steps, ∃ g, r.action = .repeatGroup g ∧
      g.group = some group

/-- The repeated groups are those that a step repeats. -/
theorem mem_repeatedGroups {w : Workflow} {group : String} : group ∈ w.repeatedGroups ↔
    ∃ r ∈ w.steps, ∃ g, r.action = .repeatGroup g ∧ g.group = some group := by
  unfold repeatedGroups
  rw [List.mem_filterMap]
  refine exists_congr fun r => and_congr_right fun _ => ?_
  cases r.action <;> simp

/-- The steps that are passed over are those that only run as members. -/
theorem isSkipped_iff {w : Workflow} {s : Step} : w.isSkipped s = true ↔ w.Looped s := by
  unfold isSkipped Looped
  rw [Bool.and_eq_true, Bool.not_eq_true']
  refine and_congr_right fun _ => ?_
  cases s.group with
  | none => simp
  | some group => simp [mem_repeatedGroups]

/-- A member of a group is a step with its position. -/
theorem of_mem_members {w : Workflow} {group : String} {m : Nat × Step}
    (h : m ∈ w.members group) : w.steps[m.1]? = some m.2 ∧ m.2.group = some group := by
  obtain ⟨hm, hgroup⟩ := List.mem_filter.1 h
  obtain ⟨p, hp, rfl⟩ := List.mem_map.1 hm
  exact ⟨List.mem_zipIdx_iff_getElem?.1 hp, by simpa using (Bool.and_eq_true_iff.1 hgroup).1⟩

/-- The first step from a position on that runs on its own. -/
structure IsNext (w : Workflow) (n d : Nat) : Prop where
  /-- It does not lie before the position. -/
  le : n ≤ d
  /-- It runs on its own. -/
  own : ∃ s, w.steps[d]? = some s ∧ ¬ w.Looped s
  /-- The steps between only run as members. -/
  first : ∀ i, n ≤ i → i < d → ∃ s, w.steps[i]? = some s ∧ w.Looped s

/-- No step from a position on runs on its own. -/
def NoneLeft (w : Workflow) (n : Nat) : Prop :=
  ∀ i s, n ≤ i → w.steps[i]? = some s → w.Looped s

end Workflow

/-! ## Legs -/

/-- A part of a run: a step that begins on its own, and the checks up to the next one. -/
structure Leg where
  /-- Position of the step. -/
  index : Nat
  /-- What was asked and answered while the step ran. -/
  talk : Transcript
  /-- How the step ended. -/
  outcome : Except Breakdown (Except StepError Flow)
  /-- What was asked and answered between it and the next one. -/
  checks : Transcript

/-- Nothing was asked but whether the run is to stop. -/
def OnlyChecks (t : Transcript) : Prop := ∀ x ∈ t, x.1 = .stopRequested

/-- Nothing was asked at all. -/
theorem onlyChecks_nil : OnlyChecks [] := List.forall_mem_nil _

/-- One check was made. -/
theorem onlyChecks_singleton (told : Bool) : OnlyChecks [⟨.stopRequested, told⟩] :=
  List.forall_mem_singleton.2 rfl

namespace Leg

/-- What was asked and answered. -/
def transcript (l : Leg) : Transcript := ⟨.note (.began l.index), ()⟩ :: (l.talk ++ l.checks)

/-- A leg is a play of its step. -/
structure Played (ctx : Context) (l : Leg) : Prop where
  /-- The step was played as it says. -/
  goes : ∃ s, ctx.workflow.steps[l.index]? = some s ∧
    (s.action.play ctx l.index).run.Goes l.talk l.outcome
  /-- Then there were only checks. -/
  checks : OnlyChecks l.checks

end Leg

/-- The target of the answer. -/
def Conditional.goal (s : Conditional) (found : Bool) : Option UInt64 :=
  if s.holds found then s.gotoOnTrue else s.gotoOnFalse

namespace Workflow

/-- Where a leg leads to: the target of a conditional step if it is the number of a step, or else
the position after the step. -/
def follower (w : Workflow) (l : Leg) : Nat :=
  match w.steps[l.index]?.map Step.action with
  | some (.conditional c) =>
    match c.goal (l.talk.any isHit) with
    | some target =>
      if 1 ≤ target.toNat ∧ target.toNat ≤ w.steps.length then target.toNat - 1 else l.index + 1
    | none => l.index + 1
  | _ => l.index + 1

/-- Each leg from a position on is the next one. -/
def InOrder (w : Workflow) : Nat → List Leg → Prop
  | _, [] => True
  | n, l :: rest => w.IsNext n l.index ∧ InOrder w (w.follower l) rest

/-- Where legs from a position on lead to. -/
def arrival (w : Workflow) : Nat → List Leg → Nat
  | n, [] => n
  | _, l :: rest => arrival w (w.follower l) rest

end Workflow

/-- How a run from a position on ended. -/
inductive Context.Ends (ctx : Context) (n : Nat) (t : Transcript) (legs : List Leg)
    (report : Report) : Prop where
  /-- No step was left. -/
  | completed (hstatus : report.status = .succeeded)
      (hleft : ctx.workflow.NoneLeft (ctx.workflow.arrival n legs))
  /-- A check between two steps told it to stop. -/
  | stopped (hstatus : report.status = .aborted)
      (htold : t.getLast? = some ⟨.stopRequested, true⟩)
  /-- The last step broke off because it was told to stop. -/
  | aborted (hstatus : report.status = .aborted) {l : Leg} (hlast : legs.getLast? = some l)
      (houtcome : l.outcome = .ok (.error .aborted)) (htold : ∃ e ∈ l.talk, tellsStop e = true)
  /-- The last step failed. -/
  | failed (hstatus : report.status = .failed) {l : Leg} (hlast : legs.getLast? = some l)
      (hchecks : l.checks = []) {e : StepError} (houtcome : l.outcome = .ok (.error e))
      (hstop : e ≠ .aborted) (hsense : ∀ reason, e ≠ .misconfigured reason)
      (hmessage : report.message =
        "Error at step " ++ Decimal.digits (l.index + 1) ++ ": " ++ e.message)

/-- A run from a position on, with a number of steps begun before, as a sequence of legs. -/
structure Context.Journey (ctx : Context) (n executed : Nat) (t : Transcript)
    (r : Except Breakdown Report) (opening : Transcript) (legs : List Leg) : Prop where
  /-- The legs make up the run. -/
  transcript : t = opening ++ legs.flatMap Leg.transcript
  /-- Before the first one there were only checks. -/
  opening : OnlyChecks opening
  /-- Each one is a play of its step. -/
  played : ∀ l ∈ legs, l.Played ctx
  /-- Each one is the next one. -/
  order : ctx.workflow.InOrder n legs
  /-- The report counts them and says how the run ended. -/
  report : ∀ report, r = .ok report →
    report.executed = executed + legs.length ∧ ctx.Ends n t legs report

/-! ## Where a step leads to -/

/-- What a conditional step leads to in a workflow with a number of steps. -/
def Conditional.verdict (s : Conditional) (count : Nat) (found : Bool) : Except StepError Flow :=
  match s.goal found with
  | none => .ok .next
  | some target =>
    if targetInRange target count then .ok (.goto (target.toNat - 1))
    else .error (.misconfigured ("goto target " ++ Decimal.digits target.toNat ++ " outside 1..="
      ++ Decimal.digits count))

/-- Something is noted before a result. -/
theorem goes_noted {α : Type} {n : Note} {r r' : Except StepError α} {t : Transcript}
    (h : (liftM (Talk.note n) >>= fun _ => ExceptT.mk (.done r) : Play α).run.Goes t (.ok r')) :
    t = [⟨.note n, ()⟩] ∧ r' = r := by
  obtain ⟨_, rest, rfl, rfl, hr⟩ := h
  cases hr
  exact ⟨rfl, rfl⟩

/-- A conditional step ends as its look at the screen says, unless it is stopped. -/
theorem conditional_tells (s : Conditional) (ctx : Context) (index : Nat) :
    (s.play ctx index).run.Tells fun t r =>
      r = .error .aborted ∨ r = s.verdict ctx.workflow.steps.length (t.any isHit) := by
  unfold Conditional.play
  refine (onlyStops_attempt _).tells (fun _ => .inl rfl) fun t₁ shot hshot => ?_
  -- Only a screenshot that was taken leads to a question, so without one there is no hit.
  rcases goes_capture hshot with ⟨screen, rfl, rfl⟩ | ⟨e, reason, rfl, rfl⟩
  case' inl =>
    refine (onlyStops_inPlay _).tells (fun _ => .inl rfl) fun t₂ hit hhit => ?_
    have hfound := goes_locate (goes_play hhit)
  all_goals
    refine (onlyStops_pure _).tells (fun _ => .inl rfl) fun t₃ found hpure u r hu => .inr ?_
    obtain ⟨rfl, hpure⟩ := hpure
    cases hpure
    -- There is no target, or it is the number of a step or not; each time the decision is noted.
    dsimp only at hu
    split at hu
    case' h_2 => split at hu
    all_goals
      obtain ⟨rfl, rfl⟩ := goes_noted hu
      simp_all [Conditional.verdict, Conditional.goal, isHit]

/-- Where a step that ended in a certain way leads to. -/
def Flow.next? (index : Nat) : Except StepError Flow → Option Nat
  | .ok (.goto target) => some target
  | .ok _ => some (index + 1)
  | .error (.misconfigured _) => some (index + 1)
  | .error _ => none

/-- After a conditional step it is the target of the answer, if that is a step. -/
theorem next?_verdict {w : Workflow} {s : Step} {c : Conditional} {l : Leg}
    (hs : w.steps[l.index]? = some s) (hc : s.action = .conditional c) :
    Flow.next? l.index (c.verdict w.steps.length (l.talk.any isHit)) = some (w.follower l) := by
  unfold Workflow.follower Conditional.verdict
  rw [hs, Option.map_some, hc]
  dsimp only
  cases c.goal (l.talk.any isHit) with
  | none => rfl
  | some target =>
    have hrange : targetInRange target w.steps.length = true ↔
        1 ≤ target.toNat ∧ target.toNat ≤ w.steps.length := by
      simp [targetInRange, ← UInt64.toNat_inj, Nat.one_le_iff_ne_zero]
    dsimp only
    split
    next h => rw [if_pos (hrange.1 h)]; rfl
    next h => rw [if_neg fun h' => h (hrange.2 h')]; rfl

/-- A leg leads on as its step ended. -/
theorem follower_eq {ctx : Context} {s : Step} {l : Leg} {r : Except StepError Flow} {n : Nat}
    (hs : ctx.workflow.steps[l.index]? = some s)
    (hgoes : (s.action.play ctx l.index).run.Goes l.talk (.ok r))
    (hn : Flow.next? l.index r = some n) : ctx.workflow.follower l = n := by
  by_cases hc : ∃ c, s.action = .conditional c
  · -- A conditional step goes by its look at the screen, which is in the transcript.
    obtain ⟨c, hc⟩ := hc
    rw [hc] at hgoes
    rcases conditional_tells c ctx l.index l.talk r hgoes with rfl | rfl
    · exact nomatch hn
    · rw [next?_verdict hs hc] at hn
      exact Option.some.inj hn
  · -- No other step leads elsewhere, and each one that lets the run go on leads to the next one.
    have hends := action_ends ctx l.index s.action l.talk r hgoes
    have hfollower : ctx.workflow.follower l = l.index + 1 := by
      unfold Workflow.follower
      rw [hs, Option.map_some]
      split
      next c h => exact absurd ⟨c, Option.some.inj h⟩ hc
      next => rfl
    cases r with
    | ok flow =>
      cases flow with
      | goto target => exact absurd hends hc
      | next => exact hfollower.trans (Option.some.inj hn)
      | matched name => exact hfollower.trans (Option.some.inj hn)
    | error e =>
      cases e with
      | misconfigured reason => exact hfollower.trans (Option.some.inj hn)
      | _ => exact nomatch hn

/-! ## The journey of a run -/

section

variable {ctx : Context} {n executed : Nat} {t : Transcript} {r : Except Breakdown Report}
  {opening : Transcript} {legs : List Leg} {s : Step}

/-- A step that only runs as a member is passed over. -/
theorem Workflow.IsNext.skip {w : Workflow} {d : Nat} (hs : w.steps[n]? = some s)
    (hlooped : w.Looped s) (h : w.IsNext (n + 1) d) : w.IsNext n d := by
  refine ⟨Nat.le_of_succ_le h.le, h.own, fun i hi hd => ?_⟩
  rcases Nat.eq_or_lt_of_le hi with rfl | hi
  · exact ⟨s, hs, hlooped⟩
  · exact h.first i hi hd

/-- So is it when no step is left. -/
theorem Workflow.NoneLeft.skip {w : Workflow} (hs : w.steps[n]? = some s)
    (hlooped : w.Looped s) (h : w.NoneLeft (n + 1)) : w.NoneLeft n := by
  intro i s' hi hs'
  rcases Nat.eq_or_lt_of_le hi with rfl | hi
  · rw [hs] at hs'
    cases hs'
    exact hlooped
  · exact h i s' hi hs'

/-- The end of a run is that of a run that leads to it. -/
theorem Context.Ends.prepend {m : Nat} {report : Report} (h : ctx.Ends m t legs report)
    (before : Transcript) (first : List Leg)
    (hleft : ctx.workflow.NoneLeft (ctx.workflow.arrival m legs) →
      ctx.workflow.NoneLeft (ctx.workflow.arrival n (first ++ legs))) :
    ctx.Ends n (before ++ t) (first ++ legs) report := by
  cases h with
  | completed hstatus h => exact .completed hstatus (hleft h)
  | stopped hstatus htold =>
    exact .stopped hstatus (by rw [List.getLast?_append, htold, Option.some_or])
  | aborted hstatus hlast houtcome htold =>
    refine .aborted hstatus ?_ houtcome htold
    rw [List.getLast?_append, hlast, Option.some_or]
  | failed hstatus hlast hchecks houtcome hstop hsense hmessage =>
    refine .failed hstatus ?_ hchecks houtcome hstop hsense hmessage
    rw [List.getLast?_append, hlast, Option.some_or]

namespace Context.Journey

/-- Nothing was asked before the run broke off. -/
theorem broken (b : Breakdown) : ctx.Journey n executed [] (.error b) [] [] :=
  ⟨rfl, onlyChecks_nil, List.forall_mem_nil _, trivial, nofun⟩

/-- At the end of the workflow the run is completed. -/
theorem completed (hs : ctx.workflow.steps[n]? = none) (message : String) :
    ctx.Journey n executed [] (.ok ⟨.succeeded, message, executed⟩) [] [] := by
  refine ⟨rfl, onlyChecks_nil, List.forall_mem_nil _, trivial, ?_⟩
  rintro report ⟨⟩
  refine ⟨rfl, .completed rfl fun i s hi hs' => ?_⟩
  have hlength := List.getElem?_eq_none_iff.1 hs
  rw [List.getElem?_eq_none (Nat.le_trans hlength hi)] at hs'
  exact nomatch hs'

/-- A check ends the run if it is to stop. -/
theorem stopped (message : String) :
    ctx.Journey n executed [⟨.stopRequested, true⟩] (.ok ⟨.aborted, message, executed⟩)
      [⟨.stopRequested, true⟩] [] := by
  refine ⟨rfl, onlyChecks_singleton true, List.forall_mem_nil _, trivial, ?_⟩
  rintro report ⟨⟩
  exact ⟨rfl, .stopped rfl rfl⟩

/-- A step that only runs as a member is passed over after a check. -/
theorem skip (hs : ctx.workflow.steps[n]? = some s) (hlooped : ctx.workflow.Looped s)
    (h : ctx.Journey (n + 1) executed t r opening legs) :
    ctx.Journey n executed (⟨.stopRequested, false⟩ :: t) r (⟨.stopRequested, false⟩ :: opening)
      legs where
  transcript := congrArg (_ :: ·) h.transcript
  opening := List.forall_mem_cons.2 ⟨rfl, h.opening⟩
  played := h.played
  order := by
    -- Only the first leg depends on where the run starts.
    cases legs with
    | nil => exact trivial
    | cons l rest => exact ⟨h.order.1.skip hs hlooped, h.order.2⟩
  report := by
    intro report hr
    obtain ⟨hexecuted, hends⟩ := h.report report hr
    refine ⟨hexecuted, hends.prepend [⟨.stopRequested, false⟩] [] fun hleft => ?_⟩
    cases legs with
    | nil => exact hleft.skip hs hlooped
    | cons l rest => exact hleft

/-- A step that runs on its own is begun after a check, and the rest of the run follows it. -/
theorem leg (hs : ctx.workflow.steps[n]? = some s) (hown : ¬ ctx.workflow.Looped s)
    {talk : Transcript} {outcome : Except Breakdown (Except StepError Flow)}
    (hgoes : (s.action.play ctx n).run.Goes talk outcome)
    (h : ctx.Journey (ctx.workflow.follower ⟨n, talk, outcome, opening⟩) (executed + 1) t r
      opening legs) :
    ctx.Journey n executed
      (⟨.stopRequested, false⟩ :: ⟨.note (.began n), ()⟩ :: (talk ++ t)) r
      [⟨.stopRequested, false⟩] (⟨n, talk, outcome, opening⟩ :: legs) where
  transcript := by
    rw [h.transcript, List.flatMap_cons, ← List.append_assoc]
    rfl
  opening := onlyChecks_singleton false
  played := List.forall_mem_cons.2 ⟨⟨⟨s, hs, hgoes⟩, h.opening⟩, h.played⟩
  order := ⟨⟨Nat.le_refl n, ⟨s, hs, hown⟩, fun i hi hd => absurd hd (Nat.not_lt.2 hi)⟩, h.order⟩
  report := by
    intro report hr
    obtain ⟨hexecuted, hends⟩ := h.report report hr
    refine ⟨by rw [hexecuted, List.length_cons]; omega, ?_⟩
    exact hends.prepend (⟨.stopRequested, false⟩ :: ⟨.note (.began n), ()⟩ :: talk)
      [⟨n, talk, outcome, opening⟩] id

/-- A step that runs on its own is begun after a check, and the run ends with it. -/
theorem last (hs : ctx.workflow.steps[n]? = some s) (hown : ¬ ctx.workflow.Looped s)
    {talk : Transcript} {outcome : Except Breakdown (Except StepError Flow)}
    (hgoes : (s.action.play ctx n).run.Goes talk outcome)
    (hreport : ∀ report, r = .ok report → report.executed = executed + 1 ∧
      ctx.Ends n (⟨.stopRequested, false⟩ :: ⟨.note (.began n), ()⟩ :: talk)
        [⟨n, talk, outcome, []⟩] report) :
    ctx.Journey n executed (⟨.stopRequested, false⟩ :: ⟨.note (.began n), ()⟩ :: talk) r
      [⟨.stopRequested, false⟩] [⟨n, talk, outcome, []⟩] where
  transcript := by
    rw [List.flatMap_singleton, Leg.transcript, List.append_nil]
    rfl
  opening := onlyChecks_singleton false
  played := List.forall_mem_singleton.2 ⟨⟨s, hs, hgoes⟩, onlyChecks_nil⟩
  order := ⟨⟨Nat.le_refl n, ⟨s, hs, hown⟩, fun i hi hd => absurd hd (Nat.not_lt.2 hi)⟩, trivial⟩
  report := hreport

end Context.Journey

/-- What comes of the play of a step at a position. -/
inductive Dispatched (index : Nat) : Except Breakdown (Except StepError Flow) →
    Except Breakdown (Except (RunStatus × String) Nat) → Prop where
  /-- The run breaks off. -/
  | broken (b : Breakdown) : Dispatched index (.error b) (.error b)
  /-- The run goes on. -/
  | on {o : Except StepError Flow} {target : Nat} (h : Flow.next? index o = some target) :
    Dispatched index (.ok o) (.ok (.ok target))
  /-- The step was stopped. -/
  | aborted (message : String) :
    Dispatched index (.ok (.error .aborted)) (.ok (.error (.aborted, message)))
  /-- The step failed. -/
  | failed {e : StepError} (hstop : e ≠ .aborted) (hsense : ∀ reason, e ≠ .misconfigured reason) :
    Dispatched index (.ok (.error e)) (.ok (.error (.failed,
      "Error at step " ++ Decimal.digits (index + 1) ++ ": " ++ e.message)))

/-- The step at a position is begun and played. -/
theorem dispatch_goes {index : Nat} {r : Except Breakdown (Except (RunStatus × String) Nat)}
    (h : (ctx.dispatch index s).Goes t r) :
    ∃ talk outcome, t = ⟨.note (.began index), ()⟩ :: talk ∧
      (s.action.play ctx index).run.Goes talk outcome ∧ Dispatched index outcome r := by
  obtain ⟨_, rest, rfl, h⟩ := h
  rcases (Dialogue.goes_bind (d := (s.action.play ctx index).run)).1 h with
    ⟨o, talk, after, rfl, hplay, hafter⟩ | ⟨b, rfl, hbroken⟩
  · -- Nothing is asked after the step.
    have hend : after = [] ∧ Dispatched index (.ok o) r := by
      split at hafter
      · exact ⟨hafter.1, hafter.2 ▸ .on rfl⟩
      next flow hgoto =>
        refine ⟨hafter.1, hafter.2 ▸ .on ?_⟩
        cases flow with
        | goto target => exact absurd rfl (hgoto target)
        | next => rfl
        | matched name => rfl
      · exact ⟨hafter.1, hafter.2 ▸ .on rfl⟩
      · exact ⟨hafter.1, hafter.2 ▸ .aborted _⟩
      next hsense hstop =>
        exact ⟨hafter.1, hafter.2 ▸ .failed hstop hsense⟩
    obtain ⟨rfl, hend⟩ := hend
    exact ⟨talk, .ok o, by rw [List.append_nil], hplay, hend⟩
  · exact ⟨rest, .error b, rfl, hbroken, .broken b⟩

/-- An action breaks off only if it was told to. -/
theorem action_told {index : Nat} {a : Action}
    (h : (a.play ctx index).run.Goes t (.ok (.error .aborted))) : ∃ e ∈ t, tellsStop e = true := by
  have horderly : OrderlyAs (fun _ => True) (fun _ => True) .aborted (a.play ctx index) :=
    orderly_action ctx (fun _ => trivial) index a fun _ _ _ _ _ _ => trivial
  exact horderly.told h

/-- A leg ended in such a way that the run goes on, and another leg is the next one. -/
def Leg.LeadsTo (w : Workflow) (l l' : Leg) : Prop :=
  ∃ o n, l.outcome = .ok o ∧ Flow.next? l.index o = some n ∧ w.IsNext n l'.index

/-- A step that runs on its own is begun after a check; then the run ends, or the rest of it follows
from where the step leads to. -/
theorem dispatch_journey {rounds : Nat} (hs : ctx.workflow.steps[n]? = some s)
    (hown : ¬ ctx.workflow.Looped s)
    (hrest : ∀ index executed {t : Transcript}, (ctx.playFrom rounds index executed).Goes t r →
      ∃ opening legs, ctx.Journey index executed t r opening legs ∧
        legs.IsChain (Leg.LeadsTo ctx.workflow))
    (h : (do
      match ← ctx.dispatch n s with
      | .ok target => ctx.playFrom rounds target (executed + 1)
      | .error (status, message) => pure ⟨status, message, executed + 1⟩ : Talk Report).Goes t r) :
    ∃ opening legs, ctx.Journey n executed (⟨.stopRequested, false⟩ :: t) r opening legs ∧
      legs.IsChain (Leg.LeadsTo ctx.workflow) := by
  rcases Dialogue.goes_bind.1 h with ⟨o, t₁, t₂, rfl, hdispatch, hafter⟩ | ⟨b, rfl, hbroken⟩
  · obtain ⟨talk, outcome, rfl, hgoes, hdispatched⟩ := dispatch_goes hdispatch
    cases hdispatched with
    | @on o target hnext =>
      obtain ⟨opening, legs, hjourney, hlinked⟩ := hrest _ _ hafter
      have hfollower := follower_eq (l := ⟨n, talk, .ok o, opening⟩) hs hgoes hnext
      refine ⟨_, _, Context.Journey.leg hs hown hgoes (hfollower ▸ hjourney), ?_⟩
      cases legs with
      | nil => exact .singleton _
      | cons l rest => exact .cons_cons ⟨o, target, rfl, hnext, hjourney.order.1⟩ hlinked
    | aborted message =>
      obtain ⟨rfl, rfl⟩ := hafter
      rw [List.append_nil]
      refine ⟨_, _, Context.Journey.last hs hown hgoes ?_, .singleton _⟩
      rintro report ⟨⟩
      exact ⟨rfl, .aborted rfl rfl rfl (action_told hgoes)⟩
    | failed hstop hsense =>
      obtain ⟨rfl, rfl⟩ := hafter
      rw [List.append_nil]
      refine ⟨_, _, Context.Journey.last hs hown hgoes ?_, .singleton _⟩
      rintro report ⟨⟩
      exact ⟨rfl, .failed rfl rfl rfl rfl hstop hsense rfl⟩
  · obtain ⟨talk, outcome, rfl, hgoes, -⟩ := dispatch_goes hbroken
    exact ⟨_, _, Context.Journey.last hs hown hgoes nofun, .singleton _⟩

/-- A run of a workflow is a sequence of legs, each of which leads to the next one. -/
theorem playFrom_linked (ctx : Context) (rounds index executed : Nat) {t : Transcript}
    {r : Except Breakdown Report} (h : (ctx.playFrom rounds index executed).Goes t r) :
    ∃ opening legs, ctx.Journey index executed t r opening legs ∧
      legs.IsChain (Leg.LeadsTo ctx.workflow) := by
  -- Each round comes to the end of the workflow, is told to stop, or gets past one step.
  induction rounds generalizing index executed t with
  | zero =>
    obtain ⟨rfl, rfl⟩ := h
    exact ⟨[], [], .broken _, .nil⟩
  | succ rounds ih =>
    unfold Context.playFrom at h
    split at h
    next hnone =>
      obtain ⟨rfl, rfl⟩ := h
      exact ⟨[], [], .completed hnone _, .nil⟩
    next s hs =>
      obtain ⟨told, rest, rfl, h⟩ := h
      cases told with
      | true =>
        obtain ⟨rfl, rfl⟩ := h
        exact ⟨_, [], .stopped _, .nil⟩
      | false =>
        dsimp only [Dialogue.bind] at h
        rw [if_neg Bool.false_ne_true] at h
        split at h
        next hskipped =>
          obtain ⟨opening, legs, hjourney, hlinked⟩ := ih _ _ h
          exact ⟨_, legs, hjourney.skip hs (Workflow.isSkipped_iff.1 hskipped), hlinked⟩
        next hplayed =>
          exact dispatch_journey hs (fun hlooped => hplayed (Workflow.isSkipped_iff.2 hlooped))
            (fun index executed _ => ih index executed) h

/-- A run of a workflow is a sequence of legs. -/
theorem playFrom_journey (ctx : Context) (rounds index executed : Nat) {t : Transcript}
    {r : Except Breakdown Report} (h : (ctx.playFrom rounds index executed).Goes t r) :
    ∃ opening legs, ctx.Journey index executed t r opening legs := by
  obtain ⟨opening, legs, hjourney, -⟩ := playFrom_linked ctx rounds index executed h
  exact ⟨opening, legs, hjourney⟩

/-- A run is reported as aborted only if it was told to stop. -/
theorem play_told {report : Report} (h : ctx.play.Goes t (.ok report))
    (haborted : report.status = .aborted) : ∃ e ∈ t, tellsStop e = true := by
  obtain ⟨opening, legs, hjourney⟩ := playFrom_journey ctx ctx.rounds 0 0 h
  obtain ⟨-, hends⟩ := hjourney.report report rfl
  cases hends with
  | completed hstatus => rw [hstatus] at haborted; exact nomatch haborted
  | stopped _ htold => exact ⟨_, List.mem_of_getLast? htold, rfl⟩
  | @aborted _ l hlast _ htold =>
    obtain ⟨e, he, htold⟩ := htold
    refine ⟨e, ?_, htold⟩
    rw [hjourney.transcript]
    refine List.mem_append_right _ (List.mem_flatMap.2 ⟨l, List.mem_of_getLast? hlast, ?_⟩)
    exact List.mem_cons_of_mem _ (List.mem_append_left _ he)
  | failed hstatus => rw [hstatus] at haborted; exact nomatch haborted

/-! ## Begun steps and members -/

/-- A step repeats the group of another one. -/
def Workflow.JoinedBy (w : Workflow) (index member : Nat) : Prop :=
  ∃ s g group m, w.steps[index]? = some s ∧ s.action = .repeatGroup g ∧ g.group = some group ∧
    w.steps[member]? = some m ∧ m.group = some group

/-- The positions of the steps that began on their own. -/
def begun (t : Transcript) : List Nat :=
  t.filterMap fun x =>
    match x.1 with
    | .note (.began i) => some i
    | _ => none

/-- While a step runs, only members of the group that it repeats begin. -/
theorem Leg.Played.joins {l : Leg} (h : l.Played ctx) : ∀ x ∈ l.talk, x.1.isMark = true →
    ∃ i, x.1 = .note (.joined i) ∧ ctx.workflow.JoinedBy l.index i := by
  obtain ⟨s, hs, hgoes⟩ := h.goes
  let joins (q : Request) : Prop := ∃ i, q = .note (.joined i) ∧ ctx.workflow.JoinedBy l.index i
  have hmember (g : RepeatGroup) (group : String) (hg : s.action = .repeatGroup g)
      (hgroup : g.group = some group) (m : Nat × Step) (hm : m ∈ ctx.workflow.members group) :
      joins (.note (.joined m.1)) := by
    obtain ⟨hstep, hm⟩ := Workflow.of_mem_members hm
    exact ⟨m.1, rfl, s, g, group, m.2, hs, hg, hgroup, hstep, hm⟩
  have horderly : OrderlyAs joins (fun _ => True) .aborted (s.action.play ctx l.index) :=
    orderly_action ctx (fun _ => trivial) l.index s.action hmember
  exact horderly.orderly.asks.of_goes hgoes

/-- No step begins on its own where there are only checks. -/
theorem OnlyChecks.begun_eq (h : OnlyChecks t) : begun t = [] :=
  List.filterMap_eq_nil_iff.2 fun x hx => by rw [h x hx]

/-- No step begins on its own while another one runs. -/
theorem Leg.Played.begun_talk {l : Leg} (h : l.Played ctx) : begun l.talk = [] := by
  refine List.filterMap_eq_nil_iff.2 fun x hx => ?_
  split
  next i hi =>
    obtain ⟨j, hj, -⟩ := h.joins x hx (by rw [hi]; rfl)
    rw [hi] at hj
    cases hj
  next => rfl

/-- A leg begins its step and no other one. -/
theorem Leg.Played.begun_eq {l : Leg} (h : l.Played ctx) : begun l.transcript = [l.index] := by
  have hafter : begun (l.talk ++ l.checks) = [] := by
    rw [begun, List.filterMap_append, ← begun, ← begun, h.begun_talk, h.checks.begun_eq]
    rfl
  exact congrArg (l.index :: ·) hafter

/-- The steps that begin on their own are those of the legs. -/
theorem Context.Journey.begun_eq (h : ctx.Journey n executed t r opening legs) :
    begun t = legs.map Leg.index := by
  have hlegs : begun (legs.flatMap Leg.transcript) = legs.map Leg.index := by
    rw [begun, List.filterMap_flatMap, List.map_eq_flatMap, List.flatMap_def, List.flatMap_def]
    exact congrArg List.flatten (List.map_congr_left fun l hl => (h.played l hl).begun_eq)
  rw [h.transcript, begun, List.filterMap_append, ← begun, ← begun, h.opening.begun_eq, hlegs]
  rfl

end

/-- The steps of a run follow one another in the order of the program, whatever is answered. Those
that begin on their own are the indices of the legs: the first one is the first step that runs on
its own, and each later one the first such step from where the leg before it leads to. A report
counts the legs and says how the run ended: with no step left, told to stop, or with a failure of
the last step. A step that only runs as a member begins only while a step that repeats its group
runs. -/
theorem steps_in_program_order {σ : Type} (ctx : Context)
    (answer : (q : Request) → σ → q.Answer × σ) (s : σ) :
    ∃ opening legs,
      ctx.Journey 0 0 (ctx.play.transcript answer s) (ctx.play.run answer s).1 opening legs ∧
      begun (ctx.play.transcript answer s) = legs.map Leg.index ∧
      ∀ l ∈ legs, ∀ i, ⟨.note (.joined i), ()⟩ ∈ l.talk → ctx.workflow.JoinedBy l.index i := by
  obtain ⟨opening, legs, h⟩ :=
    playFrom_journey ctx ctx.rounds 0 0 (Dialogue.goes_transcript answer ctx.play s)
  refine ⟨opening, legs, h, h.begun_eq, fun l hl i hi => ?_⟩
  obtain ⟨j, hj, hjoined⟩ := (h.played l hl).joins _ hi rfl
  cases hj
  exact hjoined

end Autoplay
