import Mathlib.Data.List.TakeWhile
import Autoplay.Proofs.Run.Decision
import Autoplay.Proofs.Run.Repetition

/-!
# What the check of a workflow tells of its runs

A step has a flaw just when it can fail because it makes no sense. A step without flaws never does,
whatever is answered (`Workflow.makes_sense`), and for one with a flaw there are surroundings in
which it does (`Workflow.makes_no_sense`): only a conditional step with one good target needs to be
shown the screen on which it jumps to the other one. The main statement is `validate_foretells`.
-/

namespace Autoplay

/-! ## Wanted names -/

/-- With the blanks in front a text is blank just when it is without them. -/
theorem Text.all_trimStart (s : List Char) :
    (Text.trimStart s).all Text.isBlank = s.all Text.isBlank := by
  calc (Text.trimStart s).all Text.isBlank
      = ((s.takeWhile Text.isBlank).all Text.isBlank && (Text.trimStart s).all Text.isBlank) := by
        rw [List.all_takeWhile, Bool.true_and]
    _ = (s.takeWhile Text.isBlank ++ Text.trimStart s).all Text.isBlank := List.all_append.symm
    _ = s.all Text.isBlank := by
        unfold Text.trimStart
        rw [List.takeWhile_append_dropWhile]

/-- Of a blank text nothing is left without the blanks around it, and of no other text. -/
theorem Text.trim_eq_empty_iff {s : String} : Text.trim s = "" ↔ Text.allBlank s = true := by
  have hend (l : List Char) : Text.trimEnd l = [] ↔ l.all Text.isBlank = true := by
    unfold Text.trimEnd
    rw [List.reverse_eq_nil_iff, List.dropWhile_eq_nil_iff, List.all_eq_true]
    simp only [List.mem_reverse]
  unfold Text.trim Text.allBlank
  rw [String.ofList_eq_empty_iff, hend, Text.all_trimStart]

/-- No name is wanted if all of them are blank. -/
theorem GachaCheck.wanted_eq_nil_iff {g : GachaCheck} :
    g.wanted = [] ↔ g.targets.all Text.allBlank = true := by
  unfold wanted
  rw [List.filter_eq_nil_iff, List.forall_mem_map, List.all_eq_true]
  refine forall₂_congr fun name _ => ?_
  rw [← Text.trim_eq_empty_iff]
  simp

/-! ## Flaws -/

section

variable {w : Workflow}

/-- A jump has no flaw if its target, if there is one, is the number of a step. -/
theorem Workflow.targetFlaws_eq_nil_iff {field : String} {goto : Option UInt64} :
    w.targetFlaws field goto = [] ↔
      ∀ target, goto = some target → targetInRange target w.steps.length = true := by
  unfold targetFlaws
  cases goto with
  | none => simp
  | some target => simp

/-- The answer to a conditional step can be yes, and it can be no. -/
theorem Conditional.exists_holds (c : Conditional) (answer : Bool) :
    ∃ found, c.holds found = answer := by
  unfold holds
  cases c.condition with
  | imageExists => exact ⟨answer, rfl⟩
  | imageNotExists => exact ⟨!answer, Bool.not_not answer⟩

/-- A conditional step makes no sense when it wants to go on where there is no step. -/
theorem Conditional.verdict_misconfigured_iff {c : Conditional} {count : Nat} {found : Bool} :
    (∃ reason, c.verdict count found = .error (.misconfigured reason)) ↔
      ∃ target, c.goal found = some target ∧ targetInRange target count = false := by
  unfold verdict
  cases c.goal found with
  | none => simp
  | some target => cases hrange : targetInRange target count <;> simp [hrange]

/-- A conditional step has no flaw if it makes sense with and without the template. -/
theorem Workflow.flaws_conditional_iff {c : Conditional} : w.flaws (.conditional c) = [] ↔
    ∀ found, ¬ ∃ reason, c.verdict w.steps.length found = .error (.misconfigured reason) := by
  have hflaws : w.flaws (.conditional c) = [] ↔
      ∀ answer target, (if answer = true then c.gotoOnTrue else c.gotoOnFalse) = some target →
        targetInRange target w.steps.length = true := by
    rw [Bool.forall_bool, and_comm]
    exact List.append_eq_nil_iff.trans
      (and_congr targetFlaws_eq_nil_iff targetFlaws_eq_nil_iff)
  rw [hflaws]
  constructor
  · intro h found hverdict
    obtain ⟨target, hgoal, hrange⟩ := Conditional.verdict_misconfigured_iff.1 hverdict
    exact Bool.false_ne_true (hrange.symm.trans (h (c.holds found) target hgoal))
  · intro h answer target hgoal
    -- With one of the two outcomes of the look the target is the one of this answer.
    obtain ⟨found, rfl⟩ := c.exists_holds answer
    by_contra hrange
    exact h found (Conditional.verdict_misconfigured_iff.2
      ⟨target, hgoal, eq_false_of_ne_true hrange⟩)

/-- The repetition of a group has no flaw if it is accepted. -/
theorem Workflow.flaws_repeatGroup_iff {g : RepeatGroup} :
    w.flaws (.repeatGroup g) = [] ↔ ∃ group, g.Accepted w group := by
  unfold flaws RepeatGroup.Accepted
  dsimp only
  cases g.group with
  | none => simp
  | some group => by_cases hname : group = "" <;> simp [hname]

/-- A look at what was drawn has no flaw if a name is wanted. -/
theorem Workflow.flaws_gachaCheck_iff {g : GachaCheck} :
    w.flaws (.gachaCheck g) = [] ↔ g.wanted ≠ [] := by
  unfold flaws
  rw [Ne, GachaCheck.wanted_eq_nil_iff]
  simp

/-- A wait for a colour has no flaw if the colour has three channels. -/
theorem Workflow.flaws_waitForColor_iff {c : ColorWait} :
    w.flaws (.waitForColor c) = [] ↔ ∃ bgr, c.expectedBgr = some bgr := by
  unfold flaws
  dsimp only
  cases c.expectedBgr <;> simp

/-- The check reports an issue for each step that has a flaw, and for no other one. -/
theorem Workflow.exists_issue_iff {n : Nat} : (∃ issue ∈ w.validate, issue.step = n) ↔
    ∃ i s, n = i + 1 ∧ w.steps[i]? = some s ∧ w.flaws s.action ≠ [] := by
  unfold validate
  constructor
  · rintro ⟨issue, hissue, rfl⟩
    obtain ⟨⟨s, i⟩, hs, hissue⟩ := List.mem_flatMap.1 hissue
    obtain ⟨flaw, hflaw, rfl⟩ := List.mem_map.1 hissue
    exact ⟨i, s, rfl, List.mem_zipIdx_iff_getElem?.1 hs, List.ne_nil_of_mem hflaw⟩
  · rintro ⟨i, s, rfl, hs, hflaws⟩
    obtain ⟨flaw, hflaw⟩ := List.exists_mem_of_ne_nil _ hflaws
    exact ⟨⟨i + 1, s.action.kind, flaw⟩, List.mem_flatMap.2 ⟨(s, i),
      List.mem_zipIdx_iff_getElem?.2 hs, List.mem_map_of_mem hflaw⟩, rfl⟩

/-- In a workflow without issues no step has a flaw. -/
theorem Workflow.flaws_of_validate (h : w.validate = []) {i : Nat} {s : Step}
    (hs : w.steps[i]? = some s) : w.flaws s.action = [] := by
  by_contra hflaws
  obtain ⟨issue, hissue, -⟩ := exists_issue_iff.2 ⟨i, s, rfl, hs, hflaws⟩
  rw [h] at hissue
  exact nomatch hissue

end

/-! ## Steps that make sense -/

/-- A step under way never fails because it makes no sense, whatever is answered. -/
def Sensible (p : Play Flow) : Prop :=
  p.run.Tells fun _ r => ∀ reason, r ≠ .error (.misconfigured reason)

/-- What fails only by a stop makes sense. -/
theorem OnlyStops.sensible {p : Play Flow} (h : OnlyStops p) : Sensible p := by
  intro t r hgoes reason hr
  exact nomatch Dialogue.Yields.of_goes h hgoes _ hr

/-- A look for wanted names fails only by a stop. -/
theorem onlyStops_gachaCheck {g : GachaCheck} (h : g.wanted ≠ []) (ctx : Context) :
    OnlyStops (g.play ctx) := by
  have hmatched (name : String) : OnlyStops (do
      Talk.note (.matched name)
      pure (.matched name) : Play Flow) := (onlyStops_inPlay _).bind fun _ => onlyStops_pure _
  unfold GachaCheck.play
  dsimp only
  rw [if_neg (by simpa using h)]
  refine (onlyStops_attempt _).bind fun shot => ?_
  cases shot with
  | error e => exact onlyStops_pure _
  | ok screen =>
    refine (onlyStops_inPlay _).bind fun text => ?_
    cases text with
    | none => exact onlyStops_pure _
    | some text =>
      dsimp only
      split
      · exact onlyStops_pure _
      split
      · exact (onlyStops_attempt _).bind fun _ => hmatched _
      · exact hmatched _

/-- A wait for a colour with three channels makes sense. -/
theorem sensible_colorWait {c : ColorWait} {bgr : UInt8 × UInt8 × UInt8}
    (h : c.expectedBgr = some bgr) (ctx : Context) : Sensible (c.play ctx) := by
  unfold ColorWait.play
  rw [h]
  refine (onlyStops_inPlay _).tells (fun _ _ => nofun) fun t₁ wait _ => ?_
  refine (onlyStops_inPlay _).tells (fun _ _ => nofun) fun t₂ interval _ => ?_
  refine (onlyStops_inPlay _).tells (fun _ _ => nofun) fun t₃ started _ => ?_
  refine Dialogue.tells_bind_except (fun t e he reason hr => ?_) fun t inTime _ => ?_
  · -- The looks fail only by a stop or at a place off the screen.
    have hends := c.look_ends bgr started wait interval ctx.rounds t _ he
    rw [Except.error.inj hr] at hends
    exact hends
  · cases inTime with
    | true =>
      rintro u r ⟨-, hr⟩
      cases hr
      exact nofun
    | false =>
      -- The time is up, which is another failure.
      refine (onlyStops_inPlay _).tells (fun _ _ => nofun) fun t' now _ => ?_
      rintro u r ⟨-, hr⟩
      cases hr
      exact nofun

/-- A step without flaws makes sense. -/
theorem Workflow.makes_sense (ctx : Context) {a : Action} (h : ctx.workflow.flaws a = [])
    (index : Nat) : Sensible (a.play ctx index) := by
  intro t r hgoes reason hr
  subst hr
  -- Only four kinds of steps can fail in this way.
  rcases action_ends ctx index a t _ hgoes with ⟨c, rfl⟩ | ⟨g, rfl⟩ | ⟨g, rfl⟩ | ⟨c, rfl⟩
  · rcases conditional_tells c ctx index t _ hgoes with hstop | hverdict
    · exact nomatch hstop
    · exact flaws_conditional_iff.1 h _ ⟨reason, hverdict.symm⟩
  · obtain ⟨group, haccepted⟩ := flaws_repeatGroup_iff.1 h
    exact haccepted.onlyStops.sensible t _ hgoes reason rfl
  · have hplay := onlyStops_gachaCheck (flaws_gachaCheck_iff.1 h) ctx
    exact hplay.sensible t _ hgoes reason rfl
  · obtain ⟨bgr, hbgr⟩ := flaws_waitForColor_iff.1 h
    exact sensible_colorWait hbgr ctx t _ hgoes reason rfl

/-! ## Steps that make no sense -/

/-- A step with a flaw makes no sense in some surroundings. -/
theorem Workflow.makes_no_sense (ctx : Context) {a : Action} (h : ctx.workflow.flaws a ≠ [])
    (index : Nat) : ∃ hit reason,
      ((a.play ctx index).run.run (Chronicle.answer (sighted hit) none) ⟨(), [], []⟩).1 =
        .ok (.error (.misconfigured reason)) := by
  cases a with
  | conditional c =>
    -- The screen is chosen so that the step wants to jump to its bad target.
    obtain ⟨found, reason, hverdict⟩ :
        ∃ found reason, c.verdict ctx.workflow.steps.length found =
          .error (.misconfigured reason) := by
      by_contra hgood
      exact h (flaws_conditional_iff.2 fun found hverdict => hgood ⟨found, hverdict⟩)
    obtain ⟨hit, rfl⟩ : ∃ hit : Option Point, hit.isSome = found := by
      cases found with
      | true => exact ⟨some ⟨0, 0⟩, rfl⟩
      | false => exact ⟨none, rfl⟩
    exact ⟨hit, reason, (c.run_sighted ctx index hit).trans (congrArg Except.ok hverdict)⟩
  | repeatGroup g =>
    obtain ⟨reason, hplay⟩ : ∃ reason, g.play ctx = throw (.misconfigured reason) :=
      RepeatGroup.play_of_not_accepted fun group haccepted =>
        h (flaws_repeatGroup_iff.2 ⟨group, haccepted⟩)
    refine ⟨none, reason, ?_⟩
    show ((g.play ctx).run.run _ _).1 = _
    rw [hplay]
    rfl
  | gachaCheck g =>
    have hwanted : g.wanted = [] := by
      by_contra hwanted
      exact h (flaws_gachaCheck_iff.2 hwanted)
    refine ⟨none, "gacha_check without target_characters", ?_⟩
    show ((g.play ctx).run.run _ _).1 = _
    unfold GachaCheck.play
    rw [hwanted]
    rfl
  | waitForColor c =>
    have hcolor : c.expectedBgr = none := by
      by_contra hcolor
      exact h (flaws_waitForColor_iff.2 (Option.ne_none_iff_exists'.1 hcolor))
    refine ⟨none, "wait_for_color expected_color needs 3 channels, got "
      ++ Decimal.digits c.expectedColor.length, ?_⟩
    show ((c.play ctx).run.run _ _).1 = _
    unfold ColorWait.play
    rw [hcolor]
    rfl
  | _ => exact absurd rfl h

/-! ## Workflows -/

/-- The check reports an issue for a step just when there are surroundings in which the step, played
in the workflow and never told to stop, fails because it makes no sense. And in a run of a workflow
without issues no step that begins on its own fails in this way, nor does any member of a repeated
group, whatever is answered. -/
theorem validate_foretells (w : Workflow) :
    (∀ n, (∃ issue ∈ w.validate, issue.step = n) ↔
      ∃ i s, n = i + 1 ∧ w.steps[i]? = some s ∧
        ∃ (σ : Type) (reply : (q : Request) → σ → q.Answer × σ) (around : σ)
          (settings : Settings) (rounds : Nat) (reason : String),
          ((s.action.play ⟨w, settings, rounds⟩ i).run.run (Chronicle.answer reply none)
            ⟨around, [], []⟩).1 = .ok (.error (.misconfigured reason))) ∧
    (w.validate = [] → ∀ (settings : Settings) (rounds : Nat) (σ : Type)
      (answer : (q : Request) → σ → q.Answer × σ) (s : σ),
      let ctx : Context := ⟨w, settings, rounds⟩
      ∃ opening legs,
        ctx.Journey 0 0 (ctx.play.transcript answer s) (ctx.play.run answer s).1 opening legs ∧
        ∀ l ∈ legs, (∀ reason, l.outcome ≠ .ok (.error (.misconfigured reason))) ∧
          ∃ turns, Woven ctx (·.isMark = false) turns l.talk ∧
            ∀ turn ∈ turns, ∀ reason, turn.outcome ≠ .ok (.error (.misconfigured reason))) := by
  constructor
  · intro n
    rw [Workflow.exists_issue_iff]
    refine exists_congr fun i => exists_congr fun s => and_congr_right fun _ =>
      and_congr_right fun _ => ⟨fun hflaws => ?_, ?_⟩
    · obtain ⟨hit, reason, hrun⟩ := Workflow.makes_no_sense ⟨w, {}, 0⟩ hflaws i
      exact ⟨Unit, sighted hit, (), {}, 0, reason, hrun⟩
    · rintro ⟨σ, reply, around, settings, rounds, reason, hrun⟩ hflaws
      have hgoes := Dialogue.goes_transcript (Chronicle.answer reply none)
        (s.action.play ⟨w, settings, rounds⟩ i).run ⟨around, [], []⟩
      rw [hrun] at hgoes
      exact Workflow.makes_sense ⟨w, settings, rounds⟩ hflaws i _ _ hgoes reason rfl
  · intro hvalid settings rounds σ answer s ctx
    obtain ⟨opening, legs, hjourney⟩ :=
      playFrom_journey ctx ctx.rounds 0 0 (Dialogue.goes_transcript answer ctx.play s)
    refine ⟨opening, legs, hjourney, fun l hl => ⟨fun reason hreason => ?_, ?_⟩⟩
    · obtain ⟨step, hstep, hgoes⟩ := (hjourney.played l hl).goes
      rw [hreason] at hgoes
      have hflaws := Workflow.flaws_of_validate hvalid hstep
      exact Workflow.makes_sense ctx hflaws _ _ _ hgoes reason rfl
    · obtain ⟨turns, hwoven⟩ := (hjourney.played l hl).exists_turns
      refine ⟨turns, hwoven, fun turn hturn reason hreason => ?_⟩
      obtain ⟨step, hstep, hsingle, hgoes⟩ := hwoven.played turn hturn
      rw [hreason, ← Action.play_eq_playSingle hsingle] at hgoes
      have hflaws := Workflow.flaws_of_validate hvalid hstep
      exact Workflow.makes_sense ctx hflaws _ _ _ hgoes reason rfl

/-- A workflow that looks whether it may go on to its end, and else repeats a group of two steps. -/
def lookAndRepeat : Workflow where
  steps := [
    { action := .conditional
        { templatePath := "home.png", condition := .imageExists, gotoOnTrue := some 4 } },
    { action := .gachaCheck { targets := ["  ", "Ruby"] }, group := some "draw" },
    { action := .repeatGroup { group := some "draw", maxIterations := 2 } },
    { action := .waitForColor { x := 0, y := 0 } }]

/-- It has no issues, so that each of its steps makes sense even where nothing succeeds. -/
theorem look_and_repeat_makes_sense : lookAndRepeat.validate = [] ∧
    let ctx : Context := ⟨lookAndRepeat, {}, 10⟩
    ∃ opening legs, ctx.Journey 0 0 (ctx.play.transcript unresponsive ())
        (ctx.play.run unresponsive ()).1 opening legs ∧
      ∀ l ∈ legs, (∀ reason, l.outcome ≠ .ok (.error (.misconfigured reason))) ∧
        ∃ turns, Woven ctx (·.isMark = false) turns l.talk ∧
          ∀ turn ∈ turns, ∀ reason, turn.outcome ≠ .ok (.error (.misconfigured reason)) := by
  have hvalid : lookAndRepeat.validate = [] := rfl
  exact ⟨hvalid, (validate_foretells lookAndRepeat).2 hvalid {} 10 Unit unresponsive ()⟩

end Autoplay
