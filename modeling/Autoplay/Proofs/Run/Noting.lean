import Autoplay.Proofs.Run.Journey
import Autoplay.Proofs.Run.Routine

/-!
# What the parts of a run note

Besides the repetition of a group, only two kinds of steps note anything: a conditional step its
decision, and a look at what was drawn the name that it recognised. Main statements: a conditional
step is its look and what it concludes from it (`Conditional.play_eq`), and no other steps than
these two note anything (`notes_playSingle`).
-/

namespace Autoplay

variable {α β ε : Type}

/-! ## Notes -/

/-- What is noted. -/
def Request.note? : Request → Option Note
  | .note n => some n
  | _ => none

/-- A part notes only what it may. -/
def Notes (allowed : Note → Prop) (d : Talk α) : Prop :=
  d.Asks fun q => ∀ n, q.note? = some n → allowed n

/-- What was noted is what may be noted. -/
theorem Notes.of_goes {allowed : Note → Prop} {d : Talk α} (h : Notes allowed d) {t : Transcript}
    {r : Except Breakdown α} (ht : d.Goes t r) :
    ∀ x ∈ t, ∀ n, x.1.note? = some n → allowed n := Dialogue.Asks.of_goes h ht

/-- A part that may note nothing notes nothing. -/
theorem Notes.silent {d : Talk α} (h : Notes (fun _ => False) d) {t : Transcript}
    {r : Except Breakdown α} (ht : d.Goes t r) : ∀ x ∈ t, x.1.note? = none :=
  fun x hx => Option.eq_none_iff_forall_not_mem.2 (h.of_goes ht x hx)

section

variable {allowed : Note → Prop}

/-- Routine requests are no notes. -/
theorem allowsRoutine_notes : AllowsRoutine fun q => ∀ n, q.note? = some n → allowed n := by
  intro q hq n hn
  cases q with
  | note m => exact absurd hq Bool.false_ne_true
  | _ => exact nomatch hn

/-- A note that may be taken. -/
theorem notes_note {n : Note} (hn : allowed n) : Notes allowed (Talk.note n) :=
  .ofRequest fun _ h => Option.some.inj h ▸ hn

/-- An export notes nothing. -/
theorem notes_exportAccount (ctx : Context) (folder label : String) :
    Notes allowed (exportAccount ctx folder label).run := by
  have hcommand (c : Command) : Notes allowed (Talk.command c) := .ofRequest nofun
  have hprivileged (line : String) : Notes allowed (privilegedOrFail line).run :=
    (hcommand _).play.bind_except fun reply => by cases reply <;> exact trivial
  have hfolder : Notes allowed (Talk.ask (.makeFolders folder)) := .ofRequest nofun
  have htoday : Notes allowed (Talk.ask .today) := .ofRequest nofun
  unfold exportAccount
  refine hfolder.play.bind_except fun made => ?_
  cases made with
  | error e => exact trivial
  | ok _ =>
    refine htoday.play.bind_except fun today => ?_
    refine allowsRoutine_notes.checkpoint.inPlay.bind_except fun _ => ?_
    refine (hprivileged _).bind_except fun _ => (hprivileged _).bind_except fun _ => ?_
    refine (hcommand _).play.bind_except fun pulled => ?_
    refine (hcommand _).play.bind_except fun _ => ?_
    cases pulled <;> exact trivial

/-! ## Steps that note something -/

namespace Conditional

/-- Looks at the screen once: is the template there? -/
def look (s : Conditional) (ctx : Context) : Play Bool := do
  match ← Play.attempt Play.capture with
  | .ok screen => pure (← ctx.locate screen s.templatePath s.threshold).isSome
  | .error _ => pure false

/-- The branch that a conditional step takes in a workflow with a number of steps. A jump to no step
is not taken. -/
def branch (s : Conditional) (count : Nat) (found : Bool) : Branch :=
  match s.goal found with
  | none => .skipped
  | some target =>
    if targetInRange target count then
      if s.holds found then .thenGo target.toNat else .elseGo target.toNat
    else .skipped

/-- What a conditional step at a position decides. -/
def decision (s : Conditional) (count index : Nat) (found : Bool) : Decision :=
  ⟨index + 1, "conditional " ++ templateDisplayName none s.templatePath, s.branch count found⟩

/-- Notes the decision, and ends as it says. -/
def conclude (s : Conditional) (count index : Nat) (found : Bool) : Play Flow :=
  liftM (Talk.note (.decided (s.decision count index found))) >>= fun _ =>
    ExceptT.mk (.done (s.verdict count found))

/-- A conditional step is its look and what it concludes from it. -/
theorem play_eq (s : Conditional) (ctx : Context) (index : Nat) :
    s.play ctx index = s.look ctx >>= s.conclude ctx.workflow.steps.length index := by
  unfold look play
  rw [bind_assoc]
  refine congrArg (Play.attempt Play.capture >>= ·) (funext fun shot => ?_)
  dsimp only
  cases shot
  case' ok screen =>
    rw [bind_assoc]
    refine congrArg (liftM (ctx.locate screen s.templatePath s.threshold) >>= ·)
      (funext fun hit => ?_)
  all_goals
    rw [pure_bind, pure_bind]
    unfold conclude decision branch verdict goal
    -- Both sides branch on whether there is a target and whether it is the number of a step.
    cases (if s.holds _ = true then s.gotoOnTrue else s.gotoOnFalse) with
    | none => rfl
    | some target =>
      dsimp only
      split <;> rfl

/-- The look makes routine requests only. -/
theorem asks_look {P : Request → Prop} (hP : AllowsRoutine P) (s : Conditional) (ctx : Context) :
    (s.look ctx).run.Asks P := by
  unfold look
  refine hP.capture.attempt.bind_except fun shot => ?_
  cases shot with
  | ok screen => exact (hP.locate _ _ _ _).play.bind_except fun _ => trivial
  | error e => exact trivial

/-- So it notes nothing. -/
theorem notes_look (s : Conditional) (ctx : Context) : Notes allowed (s.look ctx).run :=
  asks_look allowsRoutine_notes s ctx

end Conditional

/-- A conditional step may note its decision. -/
theorem notes_conditional (s : Conditional) (ctx : Context) (index : Nat)
    (hdecided : ∀ label branch, allowed (.decided ⟨index + 1, label, branch⟩)) :
    Notes allowed (s.play ctx index).run := by
  rw [s.play_eq]
  refine Dialogue.Asks.bind_except (s.notes_look ctx) fun found => ?_
  have hnote : Notes allowed
      (Talk.note (.decided (s.decision ctx.workflow.steps.length index found))) :=
    notes_note (hdecided _ _)
  exact hnote.play.bind_except fun _ => trivial

/-- A look at what was drawn may note a name. -/
theorem notes_gachaCheck (s : GachaCheck) (ctx : Context)
    (hmatched : ∀ name, allowed (.matched name)) : Notes allowed (s.play ctx).run := by
  have hnote (name : String) : Notes allowed (do
      Talk.note (.matched name)
      pure (.matched name) : Play Flow).run :=
    Dialogue.Asks.play (notes_note (hmatched name)) |>.bind_except fun _ => trivial
  unfold GachaCheck.play
  dsimp only
  split
  · exact trivial
  refine allowsRoutine_notes.capture.attempt.bind_except fun shot => ?_
  cases shot with
  | error e => exact trivial
  | ok screen =>
    refine (allowsRoutine_notes.readText _ _).play.bind_except fun text => ?_
    cases text with
    | none => exact trivial
    | some text =>
      dsimp only
      split
      · exact trivial
      split
      · exact (notes_exportAccount _ _ _).attempt.bind_except fun _ => hnote _
      · exact hnote _

/-- An action that is not the repetition of a group: a conditional step may note its decision, and a
look at what was drawn a name. -/
theorem notes_playSingle (ctx : Context) (index : Nat) (a : Action)
    (hdecided : ∀ s, a = .conditional s →
      ∀ label branch, allowed (.decided ⟨index + 1, label, branch⟩))
    (hmatched : ∀ s, a = .gachaCheck s → ∀ name, allowed (.matched name)) :
    Notes allowed (a.playSingle ctx index).run := by
  cases a with
  | conditional s => exact notes_conditional s ctx index (hdecided s rfl)
  | gachaCheck s => exact notes_gachaCheck s ctx (hmatched s rfl)
  | _ => exact allowsRoutine_notes.playSingle ctx index nofun nofun

end

end Autoplay
