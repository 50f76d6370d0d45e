import Autoplay.Proofs.Run.Decision
import Autoplay.Proofs.Run.Makeup
import Autoplay.Proofs.Run.Stopping

/-!
# Screenshots and what is asked about them

Each time a run looks at the screen it takes a screenshot, and asks at most one question about it,
before it does anything else. So in the log of a run every question comes right after the screenshot
that it is about. The main statement is `question_follows_screenshot`.
-/

namespace Autoplay

/-- A question makes an entry in the log. -/
theorem Request.isLogged_of_screen? {q : Request} {screen : Picture}
    (hq : q.screen? = some screen) : q.isLogged = true := by
  cases q with
  | find | findAll | readText => rfl
  | _ => exact nomatch hq

/-- A transcript in which each question is about the screenshot that was taken right before it. -/
inductive Framed : Transcript → Prop where
  /-- Nothing was asked. -/
  | nil : Framed []
  /-- Something that is no question. -/
  | other {q : Request} (a : q.Answer) {t : Transcript} (hq : q.screen? = none) (h : Framed t) :
    Framed (⟨q, a⟩ :: t)
  /-- A screenshot and a question about it. -/
  | look {q : Request} (a : q.Answer) {screen : Picture} {t : Transcript}
    (hq : q.screen? = some screen) (h : Framed t) :
    Framed (⟨.command .screenshot, .ok screen⟩ :: ⟨q, a⟩ :: t)

/-- What was asked and answered that makes an entry in the log. -/
def logged (t : Transcript) : Transcript := t.filter fun x => x.1.isLogged

namespace Framed

variable {t u : Transcript}

/-- One after the other. -/
theorem append (ht : Framed t) (hu : Framed u) : Framed (t ++ u) := by
  induction ht with
  | nil => exact hu
  | other a hq _ ih => exact .other a hq ih
  | look a hq _ ih => exact .look a hq ih

/-- The log is such a transcript too: a screenshot and a question each make an entry. -/
theorem logged (h : Framed t) : Framed (logged t) := by
  induction h with
  | nil => exact .nil
  | @other q a t hq _ ih =>
    rw [Autoplay.logged, List.filter_cons]
    split
    · exact .other a hq ih
    · exact ih
  | look a hq _ ih =>
    rw [Autoplay.logged, List.filter_cons_of_pos (by exact rfl),
      List.filter_cons_of_pos (by exact Request.isLogged_of_screen? hq)]
    exact .look a hq ih

/-- What comes before a question is its screenshot. -/
theorem before_question (h : Framed t) {i : Nat} {x : Exchange Request Request.Answer}
    {screen : Picture} (hx : t[i]? = some x) (hscreen : x.1.screen? = some screen) :
    ∃ j, i = j + 1 ∧ t[j]? = some ⟨.command .screenshot, .ok screen⟩ := by
  induction h generalizing i with
  | nil => exact nomatch hx
  | other a hq _ ih =>
    cases i with
    | zero =>
      cases hx
      exact nomatch hq.symm.trans hscreen
    | succ i =>
      obtain ⟨j, rfl, hj⟩ := ih hx
      exact ⟨j + 1, rfl, hj⟩
  | look a hq _ ih =>
    match i, hx with
    | 0, rfl => exact nomatch hscreen
    | 1, rfl =>
      cases hq.symm.trans hscreen
      exact ⟨0, rfl, rfl⟩
    | i + 2, hx =>
      obtain ⟨j, rfl, hj⟩ := ih hx
      exact ⟨j + 2, rfl, hj⟩

end Framed

/-- The checks and notes around steps are no questions. -/
theorem framed : AroundSteps Framed where
  nil := .nil
  append _ _ := .append
  check told := .other (q := .stopRequested) told rfl .nil
  noted n := .other (q := .note n) () rfl .nil

/-! ## After a screenshot -/

section

variable {α β ε : Type}

/-- A part that asks no question. -/
theorem Dialogue.Asks.framed {d : Talk α} (h : d.Asks fun q => q.screen? = none) :
    d.Makes Framed :=
  h.makes Autoplay.framed.toJoined fun x hx => .other x.2 hx .nil

/-- What may follow a screenshot: if it begins with a question, the question is about it. -/
def FramedAfter (screen : Picture) (t : Transcript) : Prop :=
  Framed (⟨.command .screenshot, .ok screen⟩ :: t)

variable {screen : Picture}

/-- No question need follow. -/
theorem framedAfter_of_framed {d : Talk α} (hd : d.Makes Framed) : d.Makes (FramedAfter screen) :=
  fun t r h => .other (q := .command .screenshot) (Except.ok screen) rfl (hd t r h)

/-- A question about the screenshot. -/
theorem framedAfter_ask {q : Request} (hq : q.screen? = some screen) :
    (Talk.ask q).Makes (FramedAfter screen) :=
  Dialogue.makes_request fun a => .look a hq .nil

/-- Joined parts, of which the first one follows the screenshot. -/
theorem framedAfter_bind {d : Talk β} {f : β → Talk α} (hd : d.Makes (FramedAfter screen))
    (hf : ∀ b, (f b).Makes Framed) : (d.bind f).Makes (FramedAfter screen) := by
  intro t r h
  rcases Dialogue.goes_bind.1 h with ⟨b, t₁, t₂, rfl, h₁, h₂⟩ | ⟨b, -, h⟩
  · exact (hd t₁ _ h₁).append (hf b t₂ r h₂)
  · exact hd t _ h

/-- Joined parts that may fail. -/
theorem framedAfter_bind_except {x : ExceptT ε Talk β} {f : β → ExceptT ε Talk α}
    (hx : x.run.Makes (FramedAfter screen)) (hf : ∀ b, (f b).run.Makes Framed) :
    (x >>= f).run.Makes (FramedAfter screen) := by
  rw [Dialogue.run_bind_except]
  refine framedAfter_bind hx fun r => ?_
  cases r with
  | ok b => exact hf b
  | error e => exact framed.done _

/-- A part that never fails, as a part of a step. -/
theorem framedAfter_play {d : Talk α} (hd : d.Makes (FramedAfter screen)) :
    (liftM d : Play α).run.Makes (FramedAfter screen) :=
  framedAfter_bind (framedAfter_bind hd fun _ => framed.done _) fun _ => framed.done _

/-- A screenshot, and what follows it. -/
theorem framed_look {f : Except StepError Picture → Play α}
    (hok : ∀ screen, (f (.ok screen)).run.Makes (FramedAfter screen))
    (herror : ∀ e, (f (.error e)).run.Makes Framed) :
    (Play.attempt Play.capture >>= f).run.Makes Framed := by
  rintro t r ⟨told, t, rfl, h⟩
  refine .other told rfl ?_
  cases told with
  | true =>
    obtain ⟨rfl, -⟩ := h
    exact .nil
  | false =>
    obtain ⟨reply, t, rfl, h⟩ := h
    cases reply with
    | ok screen => exact hok screen t r h
    | error e => exact .other (q := .command .screenshot) (Except.error e) rfl (herror _ t r h)

/-- The best hit of a template. -/
theorem framedAfter_locate (ctx : Context) (template : String) (threshold : Float32) :
    (ctx.locate screen template threshold).Makes (FramedAfter screen) :=
  framedAfter_bind (framedAfter_ask rfl) fun hit => by cases hit <;> exact framed.done _

/-- What is written on the screen. -/
theorem framedAfter_readText (region : Option Region) :
    (Context.readText screen region).Makes (FramedAfter screen) :=
  framedAfter_bind (framedAfter_ask rfl) fun text => by cases text <;> exact framed.done _

/-- The hits of a search. -/
theorem framedAfter_hits (s : TemplateSearch) (ctx : Context) (all : Bool) :
    (s.hits ctx all screen).Makes (FramedAfter screen) := by
  unfold TemplateSearch.hits
  split
  · exact framedAfter_bind (framedAfter_ask rfl) fun hits => by cases hits <;> exact framed.done _
  · exact framedAfter_bind (framedAfter_locate ctx _ _) fun _ => framed.done _

end

/-! ## Kinds of steps -/

/-- A request that is no question is about no screen. -/
theorem allowsPlain_screenless : AllowsPlain fun q => q.screen? = none := fun _ _ hq => hq

section

variable (ctx : Context)

/-- A wait. -/
theorem framed_pause (d : Duration) : (liftM (Stoppable.pause d) : Play Unit).run.Makes Framed :=
  (allowsPlain_screenless.pause d).inPlay.framed

/-- A wait for a number of seconds. -/
theorem framed_pauseSeconds (x : Float) :
    (liftM (Stoppable.pauseSeconds x) : Play Unit).run.Makes Framed :=
  (allowsPlain_screenless.pauseSeconds x).inPlay.framed

/-- Reading a number of seconds. -/
theorem framed_seconds (x : Float) : (liftM (Talk.seconds x) : Play Duration).run.Makes Framed :=
  (AllowsPlain.seconds x).play.framed

/-- A request that is no question. -/
theorem framed_ask {q : Request} (hq : q.screen? = none) :
    (liftM (Talk.ask q) : Play q.Answer).run.Makes Framed :=
  Dialogue.Asks.framed (Dialogue.Asks.play (.ofRequest hq))

/-- The looks of a search. -/
theorem framed_search_look (s : TemplateSearch) (all : Bool) (limits : TemplateSearch.Limits)
    (rounds : Nat) (attempts : UInt32) :
    (s.look ctx all limits rounds attempts).run.Makes Framed := by
  induction rounds generalizing attempts with
  | zero => exact Dialogue.makes_halt framed.toJoined _
  | succ rounds ih =>
    have hagain (n : UInt32) : (do
        Stoppable.pause limits.interval
        s.look ctx all limits rounds n : Play _).run.Makes Framed :=
      framed.bind (framed_pause _) fun _ => ih n
    unfold TemplateSearch.look
    refine framed.bind (framed_ask rfl) fun now => ?_
    dsimp only
    split
    · exact framed.done _
    split
    · exact framed.done _
    refine framed_look (fun screen => ?_) fun e => hagain _
    refine framedAfter_bind_except (framedAfter_play (framedAfter_hits s ctx all)) fun found => ?_
    split
    · exact hagain _
    · exact framed.bind (allowsPlain_screenless.tapAll _ _ _).framed fun _ => framed.done _

/-- A search. -/
theorem framed_search (s : TemplateSearch) (all : Bool) : (s.play ctx all).run.Makes Framed := by
  refine framed.bind (framed_seconds _) fun wait => ?_
  refine framed.bind (framed_seconds _) fun interval => ?_
  refine framed.bind (framed_ask rfl) fun started => ?_
  refine framed.bind (framed_search_look ctx s all _ _ _) fun found => ?_
  cases found with
  | none => exact framed.done _
  | some attempts =>
    dsimp only
    split
    · exact framed.done _
    · exact framed.bind (framed_ask rfl) fun now => framed.done _

/-- Looks that tap a template for as long as it turns up. -/
theorem framed_loopClick_look (s : LoopClick) (looks misses : Nat) :
    (s.look ctx looks misses).run.Makes Framed := by
  induction looks generalizing misses with
  | zero => exact framed.done _
  | succ looks ih =>
    unfold LoopClick.look
    refine framed_look (fun screen => ?_) fun e =>
      framed.bind (framed_pauseSeconds _) fun _ => ih _
    refine framedAfter_bind_except (framedAfter_play (framedAfter_locate ctx _ _)) fun hit => ?_
    cases hit with
    | some p =>
      have htap := (allowsPlain_screenless.order (c := .tap p.x p.y) rfl).inPlay.framed
      exact framed.bind htap fun _ =>
        framed.bind (framed_pauseSeconds _) fun _ => ih _
    | none =>
      dsimp only
      split
      · exact framed.done _
      · exact framed.bind (framed_pauseSeconds _) fun _ => ih _

/-- The looks for a colour ask no question. -/
theorem framed_colorWait_look (s : ColorWait) (bgr : UInt8 × UInt8 × UInt8) (started : Nat)
    (wait interval : Duration) (rounds : Nat) :
    (s.look bgr started wait interval rounds).run.Makes Framed := by
  induction rounds with
  | zero => exact Dialogue.makes_halt framed.toJoined _
  | succ rounds ih =>
    have hagain : (do
        Stoppable.pause interval
        s.look bgr started wait interval rounds : Play _).run.Makes Framed :=
      framed.bind (framed_pause _) fun _ => ih
    unfold ColorWait.look
    refine framed.bind (framed_ask rfl) fun now => ?_
    dsimp only
    split
    · exact framed.done _
    refine framed_look (fun screen => framedAfter_of_framed ?_) fun e => hagain
    dsimp only
    split
    · exact framed.done _
    · exact framed.done _
    · exact hagain

/-- The wait for a colour. -/
theorem framed_colorWait (s : ColorWait) : (s.play ctx).run.Makes Framed := by
  unfold ColorWait.play
  split
  · exact framed.done _
  refine framed.bind (framed_seconds _) fun wait => ?_
  refine framed.bind (framed_seconds _) fun interval => ?_
  refine framed.bind (framed_ask rfl) fun started => ?_
  refine framed.bind (framed_colorWait_look s _ _ _ _ _) fun inTime => ?_
  split
  · exact framed.done _
  · exact framed.bind (framed_ask rfl) fun now => framed.done _

/-- A conditional step. -/
theorem framed_conditional (s : Conditional) (index : Nat) :
    (s.play ctx index).run.Makes Framed := by
  rw [s.play_eq]
  refine framed.bind ?_ fun found =>
    framed.bind (framed_ask rfl) fun _ => framed.done _
  refine framed_look (fun screen => ?_) fun e => framed.done _
  exact framedAfter_bind_except (framedAfter_play (framedAfter_locate ctx _ _)) fun _ =>
    framed.done _

/-- An export. -/
theorem framed_exportAccount (folder label : String) :
    (exportAccount ctx folder label).run.Makes Framed := by
  have hprivileged (line : String) : (privilegedOrFail line).run.Makes Framed :=
    framed.bind (framed_ask rfl) fun reply => by cases reply <;> exact framed.done _
  unfold exportAccount
  refine framed.bind (framed_ask rfl) fun made => ?_
  cases made with
  | error e => exact framed.done _
  | ok _ =>
    refine framed.bind (framed_ask rfl) fun today => ?_
    refine framed.bind (framed.inPlay framed.checkpoint) fun _ => ?_
    refine framed.bind (hprivileged _) fun _ => ?_
    refine framed.bind (hprivileged _) fun _ => ?_
    refine framed.bind (framed_ask rfl) fun pulled => ?_
    refine framed.bind (framed_ask rfl) fun _ => ?_
    cases pulled <;> exact framed.done _

/-- A look at what was drawn. -/
theorem framed_gachaCheck (s : GachaCheck) : (s.play ctx).run.Makes Framed := by
  have hnote (name : String) : (do
      Talk.note (.matched name)
      pure (.matched name) : Play Flow).run.Makes Framed :=
    framed.bind (framed_ask rfl) fun _ => framed.done _
  unfold GachaCheck.play
  dsimp only
  split
  · exact framed.done _
  refine framed_look (fun screen => ?_) fun e => framed.done _
  refine framedAfter_bind_except (framedAfter_play (framedAfter_readText _)) fun text => ?_
  cases text with
  | none => exact framed.done _
  | some text =>
    dsimp only
    split
    · exact framed.done _
    split
    · exact framed.bind (framed.attempt (framed_exportAccount ctx _ _)) fun _ => hnote _
    · exact hnote _

/-- An action that is not the repetition of a group. -/
theorem framed_playSingle (index : Nat) (a : Action) :
    (a.playSingle ctx index).run.Makes Framed := by
  have hP := allowsPlain_screenless
  cases a with
  | click s => exact (hP.gesture rfl _).framed
  | swipe s => exact (hP.gesture rfl _).framed
  | wait s => exact framed.bind (framed_pause _) fun _ => framed.done _
  | imageMatch s => exact framed_search ctx s _
  | findAllClick s => exact framed_search ctx s _
  | loopClick s => exact framed.bind (framed_loopClick_look ctx s _ _) fun _ => framed.done _
  | waitForColor s => exact framed_colorWait ctx s
  | pressBack => exact (hP.gesture rfl _).framed
  | conditional s => exact framed_conditional ctx s index
  | startGame s => exact framed.done _
  | restartGame s =>
    exact framed.bind (hP.gesture rfl _).framed fun _ => (hP.gesture rfl _).framed
  | repeatGroup s => exact framed.done _
  | gachaCheck s => exact framed_gachaCheck ctx s

/-- The look for the stop template of a group. -/
theorem framed_stopSeen (s : RepeatGroup) : (s.stopSeen ctx).run.Makes Framed := by
  unfold RepeatGroup.stopSeen
  split
  · exact framed.done _
  refine framed_look (fun screen => ?_) fun e => framed.done _
  exact framedAfter_bind_except (framedAfter_play (framedAfter_locate ctx _ _)) fun _ =>
    framed.done _

end

/-- Whatever is answered, each question in the log of a run comes right after a screenshot that
succeeded, and it is about that screenshot. So no two questions are about one screenshot, and
nothing is done between the two. -/
theorem question_follows_screenshot {σ : Type} (ctx : Context)
    (answer : (q : Request) → σ → q.Answer × σ) (s : σ) {i : Nat}
    {x : Exchange Request Request.Answer} {screen : Picture}
    (hx : (logged (ctx.play.transcript answer s))[i]? = some x)
    (hscreen : x.1.screen? = some screen) :
    ∃ j, i = j + 1 ∧ (logged (ctx.play.transcript answer s))[j]? =
      some ⟨.command .screenshot, .ok screen⟩ := by
  have hframed : Framed (ctx.play.transcript answer s) :=
    framed.playFrom (fun s _ index => framed_playSingle ctx index s.action)
      (framed_stopSeen ctx) ctx.rounds 0 0 _ _ (Dialogue.goes_transcript answer ctx.play s)
  exact hframed.logged.before_question hx hscreen

/-- A step taps a template wherever it turns up, looking twice. -/
def tapTwice : Context where
  workflow.steps := [{ action := .loopClick { templatePath := "x.png", maxIterations := 2 } }]
  settings := {}
  rounds := 3

/-- There the second question is the fifth entry, after a screenshot of its own and a tap. -/
theorem second_question_follows_screenshot :
    let screen : Picture := .tabulate 1 1 fun _ _ => ⟨0, 0, 0⟩
    let log := logged (tapTwice.play.transcript (sighted (some ⟨5, 5⟩)) ())
    (log.map fun x => x.1.screen?.isSome) = [false, true, false, false, true, false] ∧
      log[4]? =
        some ⟨.find screen (tapTwice.settings.templatePath "x.png") 0.8, .ok (some ⟨5, 5⟩)⟩ ∧
      ∃ j, 4 = j + 1 ∧ log[j]? = some ⟨.command .screenshot, .ok screen⟩ := by
  intro screen log
  have hquestion : log[4]? =
      some ⟨.find screen (tapTwice.settings.templatePath "x.png") 0.8, .ok (some ⟨5, 5⟩)⟩ := rfl
  exact ⟨by decide +kernel, hquestion, question_follows_screenshot _ _ _ hquestion rfl⟩

end Autoplay
