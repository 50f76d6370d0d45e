import Autoplay.Account.Cycle
import Autoplay.Proofs.Dialogue.Transcript

/-!
# Routine requests

All parts of a run but three ask for nothing special: they give commands that leave no trace on the
host, take screenshots, ask what is on them, wait and look whether to stop. Special are the notes,
and, in an export, the question for the day, the folder and the file that is fetched from the
device. A property that all other requests have (`AllowsRoutine`) is one of everything that such a
part asks; so what is to be shown of the requests of a run is left to be shown of its notes and its
exports. The parts that do not even ask what is on a screenshot need the property of fewer requests
(`AllowsPlain`).
-/

namespace Autoplay

/-- A request that is neither a note nor special to an export. -/
def Request.isRoutine : Request → Bool
  | .note _ => false
  | .today => false
  | .makeFolders _ => false
  | .command (.pull ..) => false
  | _ => true

/-- The screen that a question is about. -/
def Request.screen? : Request → Option Picture
  | .find screen .. => some screen
  | .findAll screen .. => some screen
  | .readText screen _ => some screen
  | _ => none

variable {α β ε : Type} {P : Request → Prop}

/-! ## Joined parts -/

namespace Dialogue.Asks

/-- A request. -/
theorem ofRequest {q : Request} (hq : P q) : (Talk.ask q).Asks P := ⟨hq, fun _ => trivial⟩

/-- A part that never fails, as one that may. -/
theorem lift {d : Talk α} (hd : d.Asks P) : (ExceptT.lift d : ExceptT ε Talk α).run.Asks P :=
  hd.bind fun _ => trivial

/-- A part that breaks off at a stop, as a part of a step. -/
theorem inPlay {x : Stoppable α} (hx : x.run.Asks P) : (liftM x : Play α).run.Asks P :=
  hx.bind fun r => by cases r <;> exact trivial

/-- A part that never fails, as a part of a step. -/
theorem play {d : Talk α} (hd : d.Asks P) : (liftM d : Play α).run.Asks P :=
  inPlay (x := liftM d) hd.lift

/-- A part whose failure does not matter. -/
theorem attempt {p : Play α} (hp : p.run.Asks P) : (Play.attempt p).run.Asks P :=
  hp.bind fun r => by split <;> exact trivial

end Dialogue.Asks

/-- A property that all routine requests have. -/
def AllowsRoutine (P : Request → Prop) : Prop := ∀ q, q.isRoutine = true → P q

/-- A property that all routine requests have that are no questions about a screen. -/
def AllowsPlain (P : Request → Prop) : Prop := ∀ q, q.isRoutine = true → q.screen? = none → P q

/-! ## Parts without questions -/

namespace AllowsPlain

variable (hP : AllowsPlain P)

include hP

/-- A check. -/
theorem checkpoint : Stoppable.checkpoint.run.Asks P :=
  ⟨hP _ rfl rfl, fun told => by cases told <;> exact trivial⟩

/-- A wait. -/
theorem pause (d : Duration) : (Stoppable.pause d).run.Asks P := by
  have hwait : (do if ← Talk.ask (.pause d) then throw ⟨⟩ : Stoppable Unit).run.Asks P :=
    ⟨hP _ rfl rfl, fun told => by cases told <;> exact trivial⟩
  unfold Stoppable.pause
  split
  · exact trivial
  · exact hwait

omit hP in
/-- Reading a number of seconds. -/
theorem seconds (x : Float) : (Talk.seconds x).Asks P := by
  unfold Talk.seconds
  split <;> exact trivial

/-- A wait for a number of seconds. -/
theorem pauseSeconds (x : Float) : (Stoppable.pauseSeconds x).run.Asks P :=
  Dialogue.Asks.bind_except (x := liftM (Talk.seconds x)) (seconds x).lift hP.pause

/-- A command that is given unless the run is to stop. -/
theorem order {c : Command} (hc : (Request.command c).isRoutine = true) :
    (Stoppable.order c).run.Asks P :=
  hP.checkpoint.bind_except fun _ => (Dialogue.Asks.ofRequest (hP _ hc rfl)).lift

/-- A screenshot. -/
theorem capture : Play.capture.run.Asks P :=
  (hP.order (c := .screenshot) rfl).inPlay.bind_except fun shot => by cases shot <;> exact trivial

/-- A command and the wait after it. -/
theorem gesture {c : Command} (hc : (Request.command c).isRoutine = true) (settle : Float) :
    (gesture c settle).run.Asks P :=
  (hP.order hc).inPlay.bind_except fun _ =>
    (hP.pauseSeconds settle).inPlay.bind_except fun _ => trivial

/-- Taps one after the other. -/
theorem tapAll (ctx : Context) (gap : Bool) (ps : List Point) :
    (tapAll ctx gap ps).run.Asks P := by
  induction ps generalizing gap with
  | nil => exact (hP.pauseSeconds _).inPlay
  | cons p rest ih =>
    have htap : (do
        let _ ← Stoppable.order (.tap p.x p.y)
        Autoplay.tapAll ctx true rest : Play Unit).run.Asks P :=
      (hP.order rfl).inPlay.bind_except fun _ => ih true
    unfold Autoplay.tapAll
    split
    · exact (hP.pauseSeconds _).inPlay.bind_except fun _ => htap
    · exact htap

end AllowsPlain

namespace AllowsRoutine

variable (hP : AllowsRoutine P)

include hP

/-- Such a property is one of the requests that are no questions. -/
theorem plain : AllowsPlain P := fun q hq _ => hP q hq

/-! ## Checks, waits and questions -/

/-- A routine request. -/
theorem ask {q : Request} (hq : q.isRoutine = true) : (Talk.ask q).Asks P := .ofRequest (hP q hq)

/-- A check. -/
theorem checkpoint : Stoppable.checkpoint.run.Asks P := hP.plain.checkpoint

/-- A wait. -/
theorem pause (d : Duration) : (Stoppable.pause d).run.Asks P := hP.plain.pause d

omit hP in
/-- Reading a number of seconds. -/
theorem seconds (x : Float) : (Talk.seconds x).Asks P := AllowsPlain.seconds x

/-- A wait for a number of seconds. -/
theorem pauseSeconds (x : Float) : (Stoppable.pauseSeconds x).run.Asks P := hP.plain.pauseSeconds x

/-- A command that is given unless the run is to stop. -/
theorem order {c : Command} (hc : (Request.command c).isRoutine = true) :
    (Stoppable.order c).run.Asks P := hP.plain.order hc

/-- A screenshot. -/
theorem capture : Play.capture.run.Asks P := hP.plain.capture

/-- The best hit of a template. -/
theorem locate (ctx : Context) (screen : Picture) (template : String) (threshold : Float32) :
    (ctx.locate screen template threshold).Asks P :=
  (hP.ask rfl).bind fun hit => by cases hit <;> exact trivial

/-- What is written on a screen. -/
theorem readText (screen : Picture) (region : Option Region) :
    (Context.readText screen region).Asks P :=
  (hP.ask rfl).bind fun text => by cases text <;> exact trivial

/-- The hits of a search on a screen. -/
theorem hits (s : TemplateSearch) (ctx : Context) (all : Bool) (screen : Picture) :
    (s.hits ctx all screen).Asks P := by
  unfold TemplateSearch.hits
  split
  · exact (hP.ask rfl).bind fun hits => by cases hits <;> exact trivial
  · exact (hP.locate ctx screen _ _).bind fun _ => trivial

/-! ## Steps -/

/-- A command and the wait after it. -/
theorem gesture {c : Command} (hc : (Request.command c).isRoutine = true) (settle : Float) :
    (gesture c settle).run.Asks P := hP.plain.gesture hc settle

/-- Taps one after the other. -/
theorem tapAll (ctx : Context) (gap : Bool) (ps : List Point) :
    (tapAll ctx gap ps).run.Asks P := hP.plain.tapAll ctx gap ps

/-- The looks of a search. -/
theorem search_look (s : TemplateSearch) (ctx : Context) (all : Bool)
    (limits : TemplateSearch.Limits) (rounds : Nat) (attempts : UInt32) :
    (s.look ctx all limits rounds attempts).run.Asks P := by
  induction rounds generalizing attempts with
  | zero => exact trivial
  | succ rounds ih =>
    have hagain (n : UInt32) : (do
        Stoppable.pause limits.interval
        s.look ctx all limits rounds n : Play _).run.Asks P :=
      (hP.pause _).inPlay.bind_except fun _ => ih n
    unfold TemplateSearch.look
    refine (hP.ask rfl).play.bind_except fun now => ?_
    dsimp only
    split
    · exact trivial
    split
    · exact trivial
    refine hP.capture.attempt.bind_except fun shot => ?_
    cases shot with
    | error e => exact hagain _
    | ok screen =>
      refine (hP.hits s ctx all screen).play.bind_except fun found => ?_
      split
      · exact hagain _
      · exact (hP.tapAll _ _ _).bind_except fun _ => trivial

/-- A search. -/
theorem search (s : TemplateSearch) (ctx : Context) (all : Bool) :
    (s.play ctx all).run.Asks P := by
  refine (seconds _).play.bind_except fun wait => ?_
  refine (seconds _).play.bind_except fun interval => ?_
  refine (hP.ask rfl).play.bind_except fun started => ?_
  refine (hP.search_look s ctx all _ _ _).bind_except fun found => ?_
  cases found with
  | none => exact trivial
  | some attempts =>
    dsimp only
    split
    · exact trivial
    · exact (hP.ask rfl).play.bind_except fun now => trivial

/-- Looks that tap a template for as long as it turns up. -/
theorem loopClick_look (s : LoopClick) (ctx : Context) (looks misses : Nat) :
    (s.look ctx looks misses).run.Asks P := by
  induction looks generalizing misses with
  | zero => exact trivial
  | succ looks ih =>
    unfold LoopClick.look
    refine hP.capture.attempt.bind_except fun shot => ?_
    cases shot with
    | error e => exact (hP.pauseSeconds _).inPlay.bind_except fun _ => ih _
    | ok screen =>
      refine (hP.locate _ _ _ _).play.bind_except fun hit => ?_
      cases hit with
      | some p =>
        exact (hP.order rfl).inPlay.bind_except fun _ =>
          (hP.pauseSeconds _).inPlay.bind_except fun _ => ih _
      | none =>
        dsimp only
        split
        · exact trivial
        · exact (hP.pauseSeconds _).inPlay.bind_except fun _ => ih _

/-- The looks for a colour. -/
theorem colorWait_look (s : ColorWait) (bgr : UInt8 × UInt8 × UInt8) (started : Nat)
    (wait interval : Duration) (rounds : Nat) :
    (s.look bgr started wait interval rounds).run.Asks P := by
  induction rounds with
  | zero => exact trivial
  | succ rounds ih =>
    have hagain : (do
        Stoppable.pause interval
        s.look bgr started wait interval rounds : Play _).run.Asks P :=
      (hP.pause _).inPlay.bind_except fun _ => ih
    unfold ColorWait.look
    refine (hP.ask rfl).play.bind_except fun now => ?_
    dsimp only
    split
    · exact trivial
    refine hP.capture.attempt.bind_except fun shot => ?_
    cases shot with
    | error e => exact hagain
    | ok screen =>
      dsimp only
      split
      · exact trivial
      · exact trivial
      · exact hagain

/-- The wait for a colour. -/
theorem colorWait (s : ColorWait) (ctx : Context) : (s.play ctx).run.Asks P := by
  unfold ColorWait.play
  split
  · exact trivial
  refine (seconds _).play.bind_except fun wait => ?_
  refine (seconds _).play.bind_except fun interval => ?_
  refine (hP.ask rfl).play.bind_except fun started => ?_
  refine (hP.colorWait_look s _ _ _ _ _).bind_except fun inTime => ?_
  split
  · exact trivial
  · exact (hP.ask rfl).play.bind_except fun now => trivial

/-- The look for the stop template of a group. -/
theorem stopSeen (s : RepeatGroup) (ctx : Context) : (s.stopSeen ctx).run.Asks P := by
  unfold RepeatGroup.stopSeen
  split
  · exact trivial
  refine hP.capture.attempt.bind_except fun shot => ?_
  cases shot with
  | error e => exact trivial
  | ok screen => exact (hP.locate _ _ _ _).play.bind_except fun _ => trivial

/-- An action that is neither the repetition of a group, nor a conditional step, nor a look at what
was drawn. -/
theorem playSingle (ctx : Context) (index : Nat) {a : Action}
    (hconditional : ∀ s, a ≠ .conditional s) (hgacha : ∀ s, a ≠ .gachaCheck s) :
    (a.playSingle ctx index).run.Asks P := by
  cases a with
  | click s => exact hP.gesture rfl _
  | swipe s => exact hP.gesture rfl _
  | wait s => exact (hP.pause _).inPlay.bind_except fun _ => trivial
  | imageMatch s => exact hP.search s ctx _
  | findAllClick s => exact hP.search s ctx _
  | loopClick s => exact (hP.loopClick_look s ctx _ _).bind_except fun _ => trivial
  | waitForColor s => exact hP.colorWait s ctx
  | pressBack => exact hP.gesture rfl _
  | conditional s => exact absurd rfl (hconditional s)
  | startGame s => exact trivial
  | restartGame s => exact (hP.gesture rfl _).bind_except fun _ => hP.gesture rfl _
  | repeatGroup s => exact trivial
  | gachaCheck s => exact absurd rfl (hgacha s)

/-! ## Around the workflow -/

/-- The place of a template that is known without a workflow. -/
theorem locateBuiltin (s : Settings) (screen : Picture) (template : String) :
    (s.locateBuiltin screen template).Asks P :=
  (hP.ask rfl).bind fun hit => by cases hit <;> exact trivial

/-- The search for a button. -/
theorem firstButton (s : Settings) (screen : Picture) (bs : List ClaimButton) :
    (s.firstButton screen bs).Asks P := by
  induction bs with
  | nil => exact trivial
  | cons b rest ih =>
    refine (hP.locateBuiltin s screen _).bind fun hit => ?_
    cases hit with
    | some p => exact trivial
    | none => exact ih

/-- The looks of the claim routine. -/
theorem claimLooks (s : Settings) (looks : Nat) (summary : ClaimSummary) (misses : Nat) :
    (s.claimLooks looks summary misses).run.Asks P := by
  induction looks generalizing summary misses with
  | zero => exact trivial
  | succ looks ih =>
    unfold Settings.claimLooks
    refine hP.checkpoint.bind_except fun _ => (hP.ask rfl).lift.bind_except fun shot => ?_
    cases shot with
    | error e => exact (hP.pauseSeconds _).bind_except fun _ => ih _ _
    | ok screen =>
      refine (hP.firstButton s screen _).lift.bind_except fun hit => ?_
      cases hit with
      | some hit =>
        exact (hP.order rfl).bind_except fun _ => (hP.pauseSeconds _).bind_except fun _ => ih _ _
      | none =>
        dsimp only
        split
        · exact trivial
        · exact (hP.pauseSeconds _).bind_except fun _ => ih _ _

/-- The search for what is on the screen when the game has loaded. -/
theorem anyReady (s : Settings) (screen : Picture) (templates : List String) :
    (s.anyReady screen templates).Asks P := by
  induction templates with
  | nil => exact trivial
  | cons t rest ih =>
    refine (hP.locateBuiltin s screen _).bind fun hit => ?_
    cases hit with
    | some p => exact trivial
    | none => exact ih

/-- The looks whether the game has loaded. -/
theorem readyLooks (s : Settings) (started : Nat) (limit poll : Duration) (rounds : Nat) :
    (s.readyLooks started limit poll rounds).run.Asks P := by
  induction rounds with
  | zero => exact trivial
  | succ rounds ih =>
    have hrest (ready : Bool) : (if ready then pure true else do
        Stoppable.pause poll
        s.readyLooks started limit poll rounds : Stoppable Bool).run.Asks P := by
      split
      · exact trivial
      · exact (hP.pause _).bind_except fun _ => ih
    unfold Settings.readyLooks
    refine hP.checkpoint.bind_except fun _ => (hP.ask rfl).lift.bind_except fun now => ?_
    dsimp only
    split
    · exact trivial
    refine (hP.ask rfl).lift.bind_except fun shot => ?_
    cases shot with
    | ok screen => exact (hP.anyReady s screen _).lift.bind_except hrest
    | error e => exact hrest false

/-- The wait until the game has loaded. -/
theorem waitForReady (s : Settings) (rounds : Nat) : (s.waitForReady rounds).run.Asks P :=
  (seconds _).lift.bind_except fun _ => (seconds _).lift.bind_except fun _ =>
    (hP.ask rfl).lift.bind_except fun _ => hP.readyLooks s _ _ _ _

/-- Copying on the device. -/
theorem copyPrivileged (source dest : String) : (copyPrivileged source dest).Asks P := by
  refine (hP.ask rfl).bind fun copied => ?_
  cases copied with
  | error e => exact trivial
  | ok _ =>
    refine (hP.ask rfl).bind fun _ => (hP.ask rfl).bind fun owner => ?_
    cases owner <;> exact (hP.ask rfl).bind fun _ => trivial

end AllowsRoutine

end Autoplay
