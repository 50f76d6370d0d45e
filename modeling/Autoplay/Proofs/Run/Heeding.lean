import Autoplay.Proofs.Run.Stopping

/-!
# The parts of a run heed a stop

Each kind of step breaks off when it is told to stop, and none takes the stop for a failure of its
own; a step that leads elsewhere has looked at the screen and so made an entry in the log. The main
statement, `heeds_play`, says that a workflow heeds a stop and is reported as aborted just then. Its
measure is the number of entries until the stop, and for the same number of entries the number of
steps that still follow: a jump makes an entry, and anything else gets on by a step.
-/

namespace Autoplay

variable {comes : Bool} {rounds : Nat} {α : Type}

/-! ## Commands, waits and screenshots -/

/-- What breaks off when the answer to a question says to stop. -/
theorem obeys_breakOff {d : Talk Bool}
    (h : Heeds comes rounds (fun told => told = true) (fun _ => 0) d) :
    Obeys comes rounds ⟨⟩ (do if ← d then throw ⟨⟩ : Stoppable Unit) := by
  refine HeedsAs.lift_bind h (fun stop hs => ?_) fun stop hs => if_pos hs
  rw [if_neg hs]
  exact heedsAs_pure rfl

/-- A check breaks off at a stop. -/
theorem obeys_checkpoint : Obeys comes rounds ⟨⟩ Stoppable.checkpoint :=
  obeys_breakOff heeds_stopRequested

/-- A wait breaks off at a stop. -/
theorem obeys_pause (d : Duration) : Obeys comes rounds ⟨⟩ (Stoppable.pause d) := by
  have hwait : Heeds comes rounds (fun told => told = true) (fun _ => 0)
      (Talk.ask (.pause d) : Talk Bool) :=
    fun _ _ => ⟨rfl, fun _ _ => ⟨Iff.rfl, fun _ _ => Nat.le_refl _⟩⟩
  unfold Stoppable.pause
  split
  · exact (obeys_stoppable heeds_overflow).bind fun _ => obeys_breakOff hwait
  · exact obeys_breakOff hwait

/-- Reading a number of seconds asks nothing. -/
theorem calm_seconds (x : Float) : Calm comes rounds (Talk.seconds x) := by
  unfold Talk.seconds
  split
  · exact heeds_done id rfl
  · exact heeds_overflow

/-- A wait for a number of seconds breaks off at a stop. -/
theorem obeys_pauseSeconds (x : Float) : Obeys comes rounds ⟨⟩ (Stoppable.pauseSeconds x) :=
  (obeys_stoppable (calm_seconds x)).bind fun d => obeys_pause d

/-- A command is given only while the run is not to stop, and it makes an entry. -/
theorem heeds_order (c : Command) :
    HeedsAs comes rounds ⟨⟩ (fun _ => 1) (Stoppable.order c) := by
  intro left hleft
  refine ⟨rfl, fun stop hstop => ?_⟩
  cases stop with
  | true => exact ⟨⟨fun _ => rfl, fun _ => rfl⟩, fun _ => nofun⟩
  | false =>
    refine ⟨rfl, fun reply _ => ⟨⟨nofun, nofun⟩, fun hc _ => ?_⟩⟩
    -- The stop would have been told if no entries were left.
    have hne : left ≠ 0 := by
      rintro rfl
      rw [hc] at hstop
      exact nomatch hstop
    show left - 1 + 1 ≤ left
    omega

/-- A command of which nothing is counted. -/
theorem obeys_order (c : Command) : Obeys comes rounds ⟨⟩ (Stoppable.order c) :=
  (heeds_order c).mono (Nat.le_refl _) fun _ _ => Nat.zero_le 1

/-- A screenshot makes an entry. -/
theorem heeds_capture : HeedsAs comes rounds .aborted (fun _ => 1) Play.capture := by
  have horder : HeedsAs comes rounds .aborted (fun _ => 1)
      (liftM (Stoppable.order .screenshot) : Play _) :=
    (heeds_order .screenshot).inPlay fun _ => Nat.le_refl 1
  refine horder.bind (fun shot => ?_) fun _ _ => Nat.le_refl 1
  cases shot with
  | ok screen => exact heedsAs_pure rfl
  | error e => exact heedsAs_throw nofun rfl

/-- What may fail passes a stop on and no other failure. -/
theorem HeedsAs.attempt {p : Play α} {used : Except StepError (Except StepError α) → Nat}
    {before : Except StepError α → Nat} (h : HeedsAs comes rounds .aborted before p)
    (hu : ∀ r, used (.ok r) ≤ before r) : HeedsAs comes rounds .aborted used (Play.attempt p) := by
  refine Heeds.bind h (fun r hr => ?_) fun r hr => ?_
  · split
    · exact absurd rfl hr
    · exact heeds_done nofun (Nat.sub_eq_zero_of_le (hu r))
  · subst hr
    exact ⟨_, rfl, rfl⟩

/-- A screenshot that may fail makes an entry all the same. -/
theorem heeds_attempt_capture :
    HeedsAs comes rounds .aborted (fun _ => 1) (Play.attempt Play.capture) :=
  heeds_capture.attempt fun _ => Nat.le_refl 1

/-- A screenshot of which nothing is counted. -/
theorem obeys_attempt_capture : Obeys comes rounds .aborted (Play.attempt Play.capture) :=
  heeds_capture.attempt fun _ => Nat.zero_le 1

/-- A question about a screen never asks whether to stop. -/
theorem calm_locate (ctx : Context) (screen : Picture) (template : String) (threshold : Float32) :
    Calm comes rounds (ctx.locate screen template threshold) := by
  refine (calm_ask rfl).bind_calm fun r => ?_
  cases r <;> exact heeds_done id rfl

/-- A question about all hits never asks whether to stop. -/
theorem calm_locateAll (ctx : Context) (screen : Picture) (template : String)
    (threshold : Float32) : Calm comes rounds (ctx.locateAll screen template threshold) := by
  refine (calm_ask rfl).bind_calm fun r => ?_
  cases r <;> exact heeds_done id rfl

/-- Reading a screen never asks whether to stop. -/
theorem calm_readText (screen : Picture) (region : Option Region) :
    Calm comes rounds (Context.readText screen region) := by
  refine (calm_ask rfl).bind_calm fun r => ?_
  cases r <;> exact heeds_done id rfl

/-! ## Kinds of steps -/

/-- The number of entries that tell a jump from anything else that a step leads to. -/
def Flow.entries : Except StepError Flow → Nat
  | .ok (.goto _) => 1
  | _ => 0

/-- A step heeds a stop, and has made an entry if it leads elsewhere. -/
abbrev StepHeeds (comes : Bool) (rounds : Nat) (p : Play Flow) : Prop :=
  HeedsAs comes rounds .aborted Flow.entries p

/-- A part of a step, and then the rest of it. -/
theorem StepHeeds.after {p : Play α} {f : α → Play Flow} (hp : Obeys comes rounds .aborted p)
    (hf : ∀ a, StepHeeds comes rounds (f a)) : StepHeeds comes rounds (p >>= f) :=
  hp.then hf fun _ => rfl

/-- The next step follows. -/
theorem StepHeeds.next : StepHeeds comes rounds (pure .next) := heedsAs_pure rfl

/-- A step makes no sense. -/
theorem StepHeeds.misconfigured (reason : String) :
    StepHeeds comes rounds (throw (.misconfigured reason)) := heedsAs_throw nofun rfl

/-- A command and the wait after it. -/
theorem heeds_gesture (c : Command) (settle : Float) : StepHeeds comes rounds (gesture c settle) :=
  .after ((obeys_order c).inPlay) fun _ =>
    .after ((obeys_pauseSeconds settle).inPlay) fun _ => .next

/-- A wait as a step. -/
theorem heeds_wait (s : Wait) : StepHeeds comes rounds s.play :=
  .after ((obeys_pause _).inPlay) fun _ => .next

/-- Closing the game and starting it again. -/
theorem heeds_restart (s : App) (ctx : Context) : StepHeeds comes rounds (s.restart ctx) :=
  .after ((heeds_gesture _ _).mono (Nat.le_refl _) fun _ _ => Nat.zero_le _) fun _ =>
    heeds_gesture _ _

/-- Taps one after the other. -/
theorem obeys_tapAll (ctx : Context) (gap : Bool) (ps : List Point) :
    Obeys comes rounds .aborted (tapAll ctx gap ps) := by
  induction ps generalizing gap with
  | nil => exact (obeys_pauseSeconds _).inPlay
  | cons p rest ih =>
    have htap : Obeys comes rounds .aborted (do
        let _ ← Stoppable.order (.tap p.x p.y)
        tapAll ctx true rest : Play Unit) := (obeys_order _).inPlay.bind fun _ => ih true
    unfold tapAll
    split
    · exact (obeys_pauseSeconds _).inPlay.bind fun _ => htap
    · exact htap

/-- A search looks at the screen in each round and so makes an entry. -/
theorem obeys_search_look (s : TemplateSearch) (ctx : Context) (all : Bool)
    (limits : TemplateSearch.Limits) (rounds : Nat) (attempts : UInt32) :
    Obeys comes rounds .aborted (s.look ctx all limits rounds attempts) := by
  induction rounds generalizing attempts with
  | zero => exact obeys_play heeds_outOfRounds
  | succ rounds ih =>
    have hagain (n : UInt32) : Obeys comes rounds .aborted (do
        Stoppable.pause limits.interval
        s.look ctx all limits rounds n : Play _) := (obeys_pause _).inPlay.bind fun _ => ih n
    unfold TemplateSearch.look
    refine (obeys_play (calm_ask rfl)).bind fun now => ?_
    dsimp only
    split
    · exact heedsAs_pure rfl
    split
    · exact heedsAs_pure rfl
    -- The screenshot makes an entry, so a round less suffices for the rest.
    refine heeds_attempt_capture.bind (fun shot => ?_) fun _ _ => Nat.zero_le 1
    cases shot with
    | error e => exact hagain _
    | ok screen =>
      have hhits : Calm comes rounds (s.hits ctx all screen) := by
        unfold TemplateSearch.hits
        split
        · exact calm_locateAll _ _ _ _
        · exact (calm_locate _ _ _ _).bind_calm fun _ => heeds_done id rfl
      refine (obeys_play hhits).bind fun found => ?_
      split
      · exact hagain _
      · exact (obeys_tapAll _ _ _).bind fun _ => heedsAs_pure rfl

/-- A search heeds a stop if it may look as often as entries can be made before the stop. -/
theorem heeds_search (s : TemplateSearch) (ctx : Context) (all : Bool) :
    StepHeeds comes ctx.rounds (s.play ctx all) := by
  refine .after (obeys_play (calm_seconds _)) fun wait => ?_
  refine .after (obeys_play (calm_seconds _)) fun interval => ?_
  refine .after (obeys_play (calm_ask rfl)) fun started => ?_
  refine .after (obeys_search_look s ctx all _ _ _) fun found => ?_
  cases found with
  | none => exact .next
  | some attempts =>
    dsimp only
    split
    · exact .next
    · exact .after (obeys_play (calm_ask rfl)) fun now => heedsAs_throw nofun rfl

/-- Looks that tap a template for as long as it turns up. -/
theorem obeys_loopClick_look (s : LoopClick) (ctx : Context) (looks misses : Nat) :
    Obeys comes rounds .aborted (s.look ctx looks misses) := by
  induction looks generalizing misses with
  | zero => exact heedsAs_pure rfl
  | succ looks ih =>
    unfold LoopClick.look
    refine obeys_attempt_capture.bind fun shot => ?_
    cases shot with
    | error e => exact (obeys_pauseSeconds _).inPlay.bind fun _ => ih _
    | ok screen =>
      refine (obeys_play (calm_locate _ _ _ _)).bind fun hit => ?_
      cases hit with
      | some p =>
        exact (obeys_order _).inPlay.bind fun _ =>
          (obeys_pauseSeconds _).inPlay.bind fun _ => ih _
      | none =>
        dsimp only
        split
        · exact heedsAs_pure rfl
        · exact (obeys_pauseSeconds _).inPlay.bind fun _ => ih _

/-- Tapping a template for as long as it turns up. -/
theorem heeds_loopClick (s : LoopClick) (ctx : Context) : StepHeeds comes rounds (s.play ctx) :=
  .after (obeys_loopClick_look s ctx _ _) fun _ => .next

/-- The wait for a colour looks at the screen in each round and so makes an entry. -/
theorem obeys_colorWait_look (s : ColorWait) (bgr : UInt8 × UInt8 × UInt8) (started : Nat)
    (wait interval : Duration) (rounds : Nat) :
    Obeys comes rounds .aborted (s.look bgr started wait interval rounds) := by
  induction rounds with
  | zero => exact obeys_play heeds_outOfRounds
  | succ rounds ih =>
    have hagain : Obeys comes rounds .aborted (do
        Stoppable.pause interval
        s.look bgr started wait interval rounds : Play _) := (obeys_pause _).inPlay.bind fun _ => ih
    unfold ColorWait.look
    refine (obeys_play (calm_ask rfl)).bind fun now => ?_
    dsimp only
    split
    · exact heedsAs_pure rfl
    -- The screenshot makes an entry, so a round less suffices for the rest.
    refine heeds_attempt_capture.bind (fun shot => ?_) fun _ _ => Nat.zero_le 1
    cases shot with
    | error e => exact hagain
    | ok screen =>
      dsimp only
      split
      · exact heedsAs_throw nofun rfl
      · exact heedsAs_pure rfl
      · exact hagain

/-- The wait for a colour heeds a stop if it may look as often as entries can be made before. -/
theorem heeds_colorWait (s : ColorWait) (ctx : Context) :
    StepHeeds comes ctx.rounds (s.play ctx) := by
  unfold ColorWait.play
  split
  · exact .misconfigured _
  refine .after (obeys_play (calm_seconds _)) fun wait => ?_
  refine .after (obeys_play (calm_seconds _)) fun interval => ?_
  refine .after (obeys_play (calm_ask rfl)) fun started => ?_
  refine .after (obeys_colorWait_look s _ _ _ _ _) fun inTime => ?_
  split
  · exact .next
  · exact .after (obeys_play (calm_ask rfl)) fun now => heedsAs_throw nofun rfl

/-- A conditional step looks at the screen before it leads elsewhere. -/
theorem heeds_conditional (s : Conditional) (ctx : Context) (index : Nat) :
    StepHeeds comes rounds (s.play ctx index) := by
  have hnote (n : Note) : Obeys comes (rounds - 1) .aborted (liftM (Talk.note n) : Play Unit) :=
    obeys_play (calm_ask rfl)
  unfold Conditional.play
  refine heeds_attempt_capture.bind (fun shot => ?_) fun _ _ => Nat.zero_le 1
  -- The screenshot is the entry that a jump needs, so nothing more is counted.
  have henough (r : Except StepError Flow) : Flow.entries r - 1 ≤ 0 := by
    unfold Flow.entries
    split <;> omega
  refine fun left hleft => Heeds.follows (u := fun _ => 0) ?_ hleft fun _ r _ =>
    Nat.add_le_add_left (henough r) left
  dsimp only
  cases shot
  case' ok screen => refine (obeys_play (calm_locate _ _ _ _)).bind fun hit => ?_
  all_goals
    refine Obeys.bind (heedsAs_pure rfl) fun found => ?_
    split
    · exact (hnote _).bind fun _ => heedsAs_pure rfl
    · split
      · exact (hnote _).bind fun _ => heedsAs_pure rfl
      · exact (hnote _).bind fun _ => heedsAs_throw nofun rfl

/-- A privileged command fails like a command. -/
theorem obeys_privilegedOrFail (line : String) :
    Obeys comes rounds .aborted (privilegedOrFail line) := by
  refine (obeys_play (calm_ask rfl)).bind fun reply => ?_
  cases reply with
  | ok _ => exact heedsAs_pure rfl
  | error e => exact heedsAs_throw nofun rfl

/-- An export breaks off at a stop before it begins to copy. -/
theorem obeys_exportAccount (ctx : Context) (folder label : String) :
    Obeys comes rounds .aborted (exportAccount ctx folder label) := by
  unfold exportAccount
  refine (obeys_play (calm_ask rfl)).bind fun made => ?_
  cases made with
  | error e => exact heedsAs_throw nofun rfl
  | ok _ =>
    refine (obeys_play (calm_ask rfl)).bind fun today => ?_
    refine obeys_checkpoint.inPlay.bind fun _ => ?_
    refine (obeys_privilegedOrFail _).bind fun _ => ?_
    refine (obeys_privilegedOrFail _).bind fun _ => ?_
    refine (obeys_play (calm_ask rfl)).bind fun pulled => ?_
    refine (obeys_play (calm_ask rfl)).bind fun _ => ?_
    cases pulled with
    | ok _ => exact heedsAs_pure rfl
    | error e => exact heedsAs_throw nofun rfl

/-- A failed export does not undo a hit, but a stop during it does end the step. -/
theorem heeds_gachaCheck (s : GachaCheck) (ctx : Context) :
    StepHeeds comes rounds (s.play ctx) := by
  have hnote (name : String) : StepHeeds comes rounds (do
      Talk.note (.matched name)
      pure (.matched name) : Play Flow) :=
    .after (obeys_play (calm_ask rfl)) fun _ => heedsAs_pure rfl
  unfold GachaCheck.play
  dsimp only
  split
  · exact .misconfigured _
  refine .after obeys_attempt_capture fun shot => ?_
  cases shot with
  | error e => exact .next
  | ok screen =>
    refine .after (obeys_play (calm_readText _ _)) fun text => ?_
    cases text with
    | none => exact .next
    | some text =>
      dsimp only
      split
      · exact .next
      split
      · -- The export may fail without consequence, but it passes a stop on.
        refine .after ?_ fun _ => hnote _
        exact (obeys_exportAccount _ _ _).attempt fun _ => Nat.le_refl 0
      · exact hnote _

/-! ## Groups and the workflow -/

/-- An action that is not the repetition of a group. -/
theorem heeds_playSingle (ctx : Context) (index : Nat) (a : Action) :
    StepHeeds comes ctx.rounds (a.playSingle ctx index) := by
  cases a with
  | click s => exact heeds_gesture _ _
  | swipe s => exact heeds_gesture _ _
  | wait s => exact heeds_wait s
  | imageMatch s => exact heeds_search s ctx _
  | findAllClick s => exact heeds_search s ctx _
  | loopClick s => exact heeds_loopClick s ctx
  | waitForColor s => exact heeds_colorWait s ctx
  | pressBack => exact heeds_gesture _ _
  | conditional s => exact heeds_conditional s ctx index
  | startGame s => exact .next
  | restartGame s => exact heeds_restart s ctx
  | repeatGroup s => exact .next
  | gachaCheck s => exact heeds_gachaCheck s ctx

/-- A pass does not take the stop of a member for a failure. -/
theorem obeys_pass (ctx : Context) (members : List (Nat × Step)) :
    Obeys comes ctx.rounds .aborted (RepeatGroup.pass ctx members) := by
  induction members with
  | nil => exact heedsAs_pure rfl
  | cons m rest ih =>
    refine (obeys_play (calm_ask rfl)).bind fun _ => ?_
    have hmember : Obeys comes ctx.rounds .aborted
        (Play.attempt (m.2.action.playSingle ctx m.1)) :=
      (heeds_playSingle ctx m.1 m.2.action).attempt fun _ => Nat.zero_le _
    refine hmember.bind fun r => ?_
    split
    · exact heedsAs_pure rfl
    · exact ih

/-- The look for the stop template. -/
theorem obeys_stopSeen (s : RepeatGroup) (ctx : Context) :
    Obeys comes rounds .aborted (s.stopSeen ctx) := by
  unfold RepeatGroup.stopSeen
  split
  · exact heedsAs_pure rfl
  refine obeys_attempt_capture.bind fun shot => ?_
  cases shot with
  | error e => exact heedsAs_pure rfl
  | ok screen => exact (obeys_play (calm_locate _ _ _ _)).bind fun _ => heedsAs_pure rfl

/-- Each pass begins with a check. -/
theorem obeys_passes (s : RepeatGroup) (ctx : Context) (members : List (Nat × Step)) (n : Nat) :
    Obeys comes ctx.rounds .aborted (s.passes ctx members n) := by
  induction n with
  | zero => exact heedsAs_pure rfl
  | succ n ih =>
    unfold RepeatGroup.passes
    refine obeys_checkpoint.inPlay.bind fun _ => ?_
    refine (obeys_pass ctx members).bind fun hit => ?_
    split
    · exact heedsAs_pure rfl
    refine (obeys_stopSeen s ctx).bind fun seen => ?_
    split
    · exact heedsAs_pure rfl
    · exact ih

/-- The repetition of a group. -/
theorem heeds_repeatGroup (s : RepeatGroup) (ctx : Context) :
    StepHeeds comes ctx.rounds (s.play ctx) := by
  unfold RepeatGroup.play
  dsimp only
  split
  · exact .misconfigured _
  split
  · exact .misconfigured _
  · exact .after (obeys_passes s ctx _ _) fun _ => .next

/-- Each action heeds a stop. -/
theorem heeds_action (ctx : Context) (index : Nat) (a : Action) :
    StepHeeds comes ctx.rounds (a.play ctx index) := by
  unfold Action.play
  split
  · exact heeds_repeatGroup _ ctx
  · exact heeds_playSingle ctx index a

/-- The number of entries that tell a jump from going on after the step at a position. -/
def jumpEntries (index : Nat) : Except (RunStatus × String) Nat → Nat
  | .ok target => if target = index + 1 then 0 else 1
  | .error _ => 0

/-- A step ends the run as aborted just when it was told to stop. If it leads anywhere but to the
step after it, it has made an entry. -/
theorem heeds_dispatch (ctx : Context) (index : Nat) (s : Step) :
    Heeds comes ctx.rounds (fun r => ∃ m, r = .error (.aborted, m)) (jumpEntries index)
      (ctx.dispatch index s) := by
  have hnote : Calm comes ctx.rounds (Talk.note (.began index)) := calm_ask rfl
  refine hnote.bind_calm fun _ => ?_
  refine Heeds.bind (heeds_action ctx index s.action) (fun r hr => ?_) fun r hr => ?_
  · cases r with
    | ok flow =>
      cases flow with
      | goto target =>
        refine heeds_done nofun ?_
        show (if target = index + 1 then 0 else 1) - 1 = 0
        split <;> rfl
      | _ => exact heeds_done nofun (by simp [jumpEntries])
    | error e =>
      cases e with
      | aborted => exact absurd rfl hr
      | misconfigured reason => exact heeds_done nofun (by simp [jumpEntries])
      | _ => exact heeds_done nofun rfl
  · subst hr
    exact ⟨_, rfl, _, rfl⟩

/-- Going on at a position takes a round: either it is that of the next step, or an entry was made.
-/
theorem playFrom_measure {left left' index target len n : Nat} (hindex : index < len)
    (hused : left' + jumpEntries index (.ok target) ≤ left)
    (hn : left * (len + 1) + (len - index) < n + 1) :
    left' * (len + 1) + (len - target) < n := by
  change left' + (if target = index + 1 then 0 else 1) ≤ left at hused
  split at hused
  next hnext =>
    subst hnext
    have hstay : left' * (len + 1) ≤ left * (len + 1) := Nat.mul_le_mul_right _ hused
    omega
  next =>
    have hjump := Nat.mul_le_mul_right (len + 1) hused
    rw [Nat.succ_mul] at hjump
    omega

/-- What is known at the end of a run that began with some entries left. -/
abbrev Reported (comes : Bool) (left : Nat) : StopState → Report → Prop :=
  Heeded comes left (fun r => r.status = .aborted) fun _ => 0

/-- The run from a position on. Between two jumps every round gets on by a step, and a jump makes an
entry; so the rounds suffice until the stop comes. -/
theorem follows_playFrom (ctx : Context) (n index executed left : Nat)
    (hleft : comes = true → left < ctx.rounds)
    (hn : comes = true → left * (ctx.workflow.steps.length + 1)
      + (ctx.workflow.steps.length - index) < n) :
    (ctx.playFrom n index executed).Follows (stopRules comes) (Reported comes left)
      ⟨false, left⟩ := by
  induction n generalizing index executed left with
  | zero => exact ⟨rfl, fun hc => absurd (hn hc) (Nat.not_lt_zero _)⟩
  | succ n ih =>
    -- A round less is left, and the entries that were made on the way are gone.
    have hgo (target executed left' : Nat) (hle : comes = true → left' ≤ left)
        (hm : comes = true → left' * (ctx.workflow.steps.length + 1)
          + (ctx.workflow.steps.length - target) < n) :
        (ctx.playFrom n target executed).Follows (stopRules comes) (Reported comes left)
          ⟨false, left'⟩ := by
      refine (ih target executed left' (fun hc => ?_) hm).mono fun g r ⟨htold, hmade⟩ => ?_
      · exact Nat.lt_of_le_of_lt (hle hc) (hleft hc)
      · exact ⟨htold, fun hc ht => Nat.le_trans (hmade hc ht) (hle hc)⟩
    unfold Context.playFrom
    split
    · exact ⟨⟨nofun, nofun⟩, fun _ _ => Nat.le_refl _⟩
    next s hs =>
      have hindex : index < ctx.workflow.steps.length := (List.getElem?_eq_some_iff.1 hs).1
      refine ⟨rfl, fun stop _ => ?_⟩
      cases stop with
      | true => exact ⟨⟨fun _ => rfl, fun _ => rfl⟩, fun _ => nofun⟩
      | false =>
        show Dialogue.Follows _ _ (if _ then _ else _) _
        split
        · -- A member of a repeated group is passed over, which gets on by a step.
          refine hgo _ _ left (fun _ => Nat.le_refl _) fun hc => ?_
          have := hn hc
          omega
        refine Dialogue.follows_bind.2 ((heeds_dispatch ctx index s left hleft).mono ?_)
        rintro ⟨told, left'⟩ r ⟨htold, hmade⟩
        cases r with
        | error e =>
          obtain ⟨status, message⟩ := e
          refine ⟨htold.trans ⟨?_, ?_⟩, hmade⟩
          · rintro ⟨m, hm⟩
            cases hm
            rfl
          · rintro rfl
            exact ⟨message, rfl⟩
        | ok target =>
          cases told with
          | true => exact absurd (htold.1 rfl) nofun
          | false =>
            refine hgo target _ left' (fun hc => ?_) fun hc => ?_
            · exact Nat.le_trans (Nat.le_add_right _ _) (hmade hc rfl)
            · exact playFrom_measure hindex (hmade hc rfl) (hn hc)

/-- A workflow heeds a stop, its report says so, and the rounds suffice for all the entries that are
made before the stop if there is one for each step and each entry. -/
theorem heeds_play (ctx : Context) :
    Heeds comes (ctx.rounds / (ctx.workflow.steps.length + 1)) (fun r => r.status = .aborted)
      (fun _ => 0) ctx.play := by
  intro left hleft
  refine follows_playFrom ctx ctx.rounds 0 0 left (fun hc => ?_) fun hc => ?_
  · exact Nat.lt_of_lt_of_le (hleft hc) (Nat.div_le_self _ _)
  · have hsteps := Nat.mul_le_of_le_div _ _ _ (hleft hc)
    rw [Nat.succ_mul] at hsteps
    omega

end Autoplay
