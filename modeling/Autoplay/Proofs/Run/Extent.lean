import Mathlib
import Autoplay.Proofs.Run.Succession

/-!
# How many steps a run executes

A step that lets the run go on leads to a later one, unless it is a conditional step that decided to
jump to itself or back. So between two such decisions a run gets through the workflow at most once.
The main statement is `executed_le`; `executed_twice_back` shows that the bound is reached.
-/

namespace Autoplay

/-- The run goes on at the step that decided or before it. -/
def Decision.isBackward (d : Decision) : Bool :=
  match d.branch with
  | .thenGo target => target ≤ d.step
  | .elseGo target => target ≤ d.step
  | .skipped => false

/-- It says that the run goes on at the step that decided or before it. -/
def Note.isReturn : Note → Bool
  | .decided d => d.isBackward
  | _ => false

/-- The number of decisions to go on at the step that decided or before it. -/
def returns (t : Transcript) : Nat := (noted t).countP Note.isReturn

/-- The conditional steps name as targets only steps after themselves. -/
def Workflow.OnlyForward (w : Workflow) : Prop :=
  ∀ (i : Nat) (s : Step) (c : Conditional) (target : UInt64), w.steps[i]? = some s →
    s.action = .conditional c → c.gotoOnTrue = some target ∨ c.gotoOnFalse = some target →
    i + 1 < target.toNat

variable {ctx : Context} {l l' : Leg}

/-! ## One leg -/

/-- A leg leads to a later step, unless its step is a conditional one that decided, and noted, a
branch that does not lead past the step. -/
theorem Leg.Played.forward (h : l.Played ctx) (hl : l.LeadsTo ctx.workflow l') :
    l.index < l'.index ∨ ∃ s c found, ctx.workflow.steps[l.index]? = some s ∧
      s.action = .conditional c ∧
      noted l.talk = [.decided (c.decision ctx.workflow.steps.length l.index found)] ∧
      (c.branch ctx.workflow.steps.length found).next l.index ≤ l.index := by
  obtain ⟨s, hs, hgoes⟩ := h.goes
  obtain ⟨o, n, houtcome, hnext, hisNext⟩ := hl
  rw [houtcome] at hgoes
  have hle : n ≤ l'.index := hisNext.le
  cases ha : s.action with
  | conditional c =>
    rw [ha] at hgoes
    rcases conditional_goes c hgoes with ⟨u, found, hsilent, htalk, ho⟩ | ⟨-, ho | ⟨b, hb⟩⟩
    · -- The step ends as the branch says.
      rw [Except.ok.inj ho, c.next?_eq] at hnext
      rcases Nat.lt_or_ge l.index n with hn | hn
      · exact .inl (Nat.lt_of_lt_of_le hn hle)
      · refine .inr ⟨s, c, found, hs, ha, ?_, Option.some.inj hnext ▸ hn⟩
        rw [htalk, noted_append, noted_eq_nil hsilent]
        rfl
    · rw [Except.ok.inj ho] at hnext
      exact nomatch hnext
    · exact nomatch hb
  | _ =>
    -- No other step jumps.
    have hends := action_ends ctx l.index s.action l.talk o hgoes
    rw [ha] at hends
    have hn : n = l.index + 1 := by
      cases o with
      | ok flow =>
        cases flow with
        | goto target => exact absurd hends nofun
        | next => exact (Option.some.inj hnext).symm
        | matched name => exact (Option.some.inj hnext).symm
      | error e =>
        cases e with
        | misconfigured reason => exact (Option.some.inj hnext).symm
        | _ => exact nomatch hnext
    exact .inl (by omega)

/-- A branch that does not lead past its step is one to go on there or before. -/
theorem Conditional.isBackward_decision (c : Conditional) {count index : Nat} {found : Bool}
    (h : (c.branch count found).next index ≤ index) :
    (c.decision count index found).isBackward = true := by
  unfold Decision.isBackward decision
  dsimp only
  cases hbranch : c.branch count found with
  | thenGo target | elseGo target =>
    rw [hbranch, Branch.next] at h
    exact decide_eq_true (by omega)
  | skipped =>
    rw [hbranch, Branch.next] at h
    omega

/-- A leg leads to a later step or notes a decision to go on at its own step or before it. -/
theorem Leg.Played.forward_or_returns (h : l.Played ctx) (hl : l.LeadsTo ctx.workflow l') :
    l.index < l'.index ∨ 0 < returns l.talk := by
  refine (h.forward hl).imp_right ?_
  rintro ⟨s, c, found, -, -, hnoted, hback⟩
  rw [returns, hnoted, List.countP_singleton, Note.isReturn, c.isBackward_decision hback]
  exact Nat.one_pos

/-- A target after the step is led to past the step. -/
theorem Conditional.lt_next (c : Conditional) {count index : Nat} {found : Bool}
    (h : ∀ target, c.goal found = some target → index + 1 < target.toNat) :
    index < (c.branch count found).next index := by
  unfold branch
  cases hgoal : c.goal found with
  | none => exact Nat.lt_succ_self index
  | some target =>
    have htarget := h target hgoal
    dsimp only
    split
    · split <;> (rw [Branch.next]; omega)
    · exact Nat.lt_succ_self index

/-- If all targets lie after their steps, so does each next step. -/
theorem Leg.Played.index_lt (h : l.Played ctx) (hforward : ctx.workflow.OnlyForward)
    (hl : l.LeadsTo ctx.workflow l') : l.index < l'.index := by
  rcases h.forward hl with hlt | ⟨s, c, found, hs, hc, -, hback⟩
  · exact hlt
  · have htargets (target : UInt64) (hgoal : c.goal found = some target) :
        l.index + 1 < target.toNat := by
      refine hforward l.index s c target hs hc ?_
      unfold Conditional.goal at hgoal
      split at hgoal
      · exact .inl hgoal
      · exact .inr hgoal
    exact absurd hback (Nat.not_le.2 (c.lt_next htargets))

/-! ## All legs -/

/-- Each leg adds its decisions to those of a run. -/
theorem Context.Journey.returns_eq {n executed : Nat} {t : Transcript}
    {r : Except Breakdown Report} {opening : Transcript} {legs : List Leg}
    (h : ctx.Journey n executed t r opening legs) :
    returns t = (legs.map fun l => returns l.talk).sum := by
  rw [returns, h.noted_eq, List.countP_flatMap]
  refine congrArg List.sum (List.map_congr_left fun l _ => ?_)
  exact List.countP_cons_of_neg Bool.false_ne_true

/-- Positions below a bound that do not grow only as often as is counted are not many. -/
theorem length_le_of_isChain {α : Type} {place count : α → Nat} {bound : Nat} {xs : List α}
    (hbound : ∀ x ∈ xs, place x < bound)
    (h : xs.IsChain fun x y => place x < place y ∨ 0 < count x) :
    xs.length ≤ bound * (1 + (xs.map count).sum) := by
  -- What is left of the current way through lies after the place of the first element.
  have hrest (x : α) (xs : List α) (hbound : ∀ y ∈ x :: xs, place y < bound)
      (h : (x :: xs).IsChain fun x y => place x < place y ∨ 0 < count x) :
      (x :: xs).length + place x ≤ bound * (1 + ((x :: xs).map count).sum) := by
    induction xs generalizing x with
    | nil =>
      have hx : place x < bound := hbound x List.mem_cons_self
      calc [x].length + place x ≤ bound * 1 := by rw [List.length_singleton]; omega
        _ ≤ bound * (1 + ([x].map count).sum) := Nat.mul_le_mul_left _ (Nat.le_add_right _ _)
    | cons y ys ih =>
      obtain ⟨hx, hbound⟩ := List.forall_mem_cons.1 hbound
      obtain ⟨hxy, h⟩ := List.isChain_cons_cons.1 h
      have hys := ih y hbound h
      rw [List.map_cons, List.sum_cons, List.length_cons]
      generalize ((y :: ys).map count).sum = total at hys ⊢
      rcases hxy with hlt | hcount
      · calc (y :: ys).length + 1 + place x ≤ (y :: ys).length + place y := by omega
          _ ≤ bound * (1 + total) := hys
          _ ≤ bound * (1 + (count x + total)) := Nat.mul_le_mul_left _ (by omega)
      · calc (y :: ys).length + 1 + place x ≤ bound * (1 + total) + bound := by omega
          _ = bound * (1 + total + 1) := (Nat.mul_succ _ _).symm
          _ ≤ bound * (1 + (count x + total)) := Nat.mul_le_mul_left _ (by omega)
  cases xs with
  | nil => exact Nat.zero_le _
  | cons x xs => exact Nat.le_trans (Nat.le_add_right _ _) (hrest x xs hbound h)

/-- Whatever is answered, a run that comes to a report executed at most as many steps as the
workflow has, once and once more for each noted decision to go on at the step that decided or before
it; if the targets of all conditional steps lie after them, at most as many as the workflow has. -/
theorem executed_le {σ : Type} (ctx : Context) (answer : (q : Request) → σ → q.Answer × σ) (s : σ)
    {report : Report} (h : (ctx.play.run answer s).1 = .ok report) :
    report.executed ≤
        ctx.workflow.steps.length * (1 + returns (ctx.play.transcript answer s)) ∧
      (ctx.workflow.OnlyForward → report.executed ≤ ctx.workflow.steps.length) := by
  obtain ⟨opening, legs, hjourney, hlinked⟩ :=
    playFrom_linked ctx ctx.rounds 0 0 (Dialogue.goes_transcript answer ctx.play s)
  have hexecuted : report.executed = legs.length := by
    rw [(hjourney.report report h).1, Nat.zero_add]
  have hbound (l : Leg) (hl : l ∈ legs) : l.index < ctx.workflow.steps.length := by
    obtain ⟨s, hs, -⟩ := (hjourney.played l hl).goes
    exact (List.getElem?_eq_some_iff.1 hs).1
  rw [hexecuted, hjourney.returns_eq]
  constructor
  · refine length_le_of_isChain hbound (hlinked.imp_of_mem_imp fun l l' hl _ hleads => ?_)
    exact (hjourney.played l hl).forward_or_returns hleads
  · intro hforward
    have hgrow : legs.IsChain fun l l' => l.index < l'.index ∨ 0 < 0 :=
      hlinked.imp_of_mem_imp fun l l' hl _ hleads =>
        .inl ((hjourney.played l hl).index_lt hforward hleads)
    simpa using length_le_of_isChain hbound hgrow

/-- A step taps, and a second one goes back to it as long as a template is found. -/
def tapWhileFound : Context where
  workflow.steps := [
    { action := .click { x := 1, y := 1 } },
    { action := .conditional
        { templatePath := "x.png", condition := .imageExists, gotoOnTrue := some 1 } }]
  settings := {}
  rounds := 10

/-- Surroundings in which screenshots and taps succeed, and the first searches have hits. -/
def fading : (q : Request) → Nat → q.Answer × Nat
  | .command .screenshot, n => (.ok (.tabulate 1 1 fun _ _ => ⟨0, 0, 0⟩), n)
  | .command (.tap ..), n => (.ok (), n)
  | .find .., n + 1 => (.ok (some ⟨5, 5⟩), n)
  | q, n => ((unresponsive q ()).1, n)

/-- When the template is found twice, both steps run three times. -/
theorem executed_twice_back :
    returns (tapWhileFound.play.transcript fading 2) = 2 ∧
      (tapWhileFound.play.run fading 2).1 = .ok ⟨.succeeded, "Workflow completed (2 steps)", 6⟩ ∧
      6 ≤ tapWhileFound.workflow.steps.length *
        (1 + returns (tapWhileFound.play.transcript fading 2)) := by
  have hrun : (tapWhileFound.play.run fading 2).1 =
      .ok ⟨.succeeded, "Workflow completed (2 steps)", 6⟩ := by decide +kernel
  exact ⟨by decide +kernel, hrun, (executed_le _ _ _ hrun).1⟩

end Autoplay
