import Autoplay.Proofs.Account.Breakdown

/-!
# How a workflow breaks off

A loop that has no end of its own asks something in each of its rounds, so that they are used up
only after as many answers. Apart from that a workflow breaks off only at a wait that is too long
for any clock. The main statement is `lasts_play`.
-/

namespace Autoplay

open Dialogue (Lasts)

section

variable {α : Type} {P : Breakdown → Prop} {n : Nat}

/-- A request, and then the rest, for which one answer less has to come. -/
theorem lasts_ask {q : Request} {f : q.Answer → Play α} (hf : ∀ a, (f a).run.Lasts P (n - 1)) :
    (liftM (Talk.ask q) >>= f : Play α).run.Lasts P n :=
  hf

/-- A part that breaks off at a stop, as a part of a step. -/
theorem Dialogue.Lasts.inPlay {x : Stoppable α} (h : x.run.Lasts P n) :
    (liftM x : Play α).run.Lasts P n :=
  h.bind fun r => by cases r <;> exact trivial

/-- A part that never fails, as a part of a step. -/
theorem Dialogue.Lasts.talk {d : Talk α} (h : d.Lasts P n) : (liftM d : Play α).run.Lasts P n :=
  Lasts.inPlay (x := liftM d) (h.bind fun _ => trivial)

/-- The results of such a part. -/
theorem yields_talk {S : α → Prop} {d : Talk α} (h : d.Yields S) :
    (liftM d : Play α).run.Yields fun r => ∀ a, r = .ok a → S a := by
  have hlift : (liftM d : Stoppable α).run.Yields fun r => ∀ a, r = .ok a → S a := by
    refine Dialogue.Yields.bind h fun a ha => ?_
    rintro _ ⟨⟩
    exact ha
  refine Dialogue.Yields.bind hlift fun r hr => ?_
  cases r with
  | ok a => exact fun b hb => hr b (by cases hb; rfl)
  | error e => exact nofun

/-- What may fail. -/
theorem Dialogue.Lasts.attempt {p : Play α} (h : p.run.Lasts P n) :
    (Play.attempt p).run.Lasts P n :=
  h.bind fun r => by split <;> exact trivial

/-- A screenshot. -/
theorem lasts_capture : Play.capture.run.Lasts P n := by
  refine ((halts_order _).lasts n).inPlay.bind_except fun shot => ?_
  cases shot <;> exact trivial

/-- A question about a screen. -/
theorem lasts_locate (ctx : Context) (screen : Picture) (template : String) (threshold : Float32) :
    (ctx.locate screen template threshold).Lasts P n :=
  fun r => by cases r <;> exact trivial

/-- A question about all hits. -/
theorem lasts_locateAll (ctx : Context) (screen : Picture) (template : String)
    (threshold : Float32) : (ctx.locateAll screen template threshold).Lasts P n :=
  fun r => by cases r <;> exact trivial

/-- Reading a screen. -/
theorem lasts_readText (screen : Picture) (region : Option Region) :
    (Context.readText screen region).Lasts P n :=
  fun r => by cases r <;> exact trivial

end

/-! ## Kinds of steps -/

/-- The waits of a search, in seconds. -/
def TemplateSearch.waits (s : TemplateSearch) (t : TimingSettings) : List Float :=
  [s.maxWaitSeconds, s.retryInterval, t.clickSettle, t.findAllGap]

/-- The waits of taps on a template. -/
def LoopClick.waits (s : LoopClick) (t : TimingSettings) : List Float :=
  [t.screenshotRetry, s.clickDelay, s.retryDelay]

/-- The waits of a wait for a colour. -/
def ColorWait.waits (s : ColorWait) : List Float := [s.maxWaitSeconds, s.checkInterval]

/-- The waits of an action, in seconds. Those of a repeated group are its members'; a wait in whole
milliseconds is never too long. -/
def Action.waits (t : TimingSettings) : Action → List Float
  | .click _ => [t.clickSettle]
  | .swipe _ => [t.swipeSettle]
  | .wait _ => []
  | .imageMatch s => s.waits t
  | .findAllClick s => s.waits t
  | .loopClick s => s.waits t
  | .waitForColor s => s.waits
  | .pressBack => [t.backSettle]
  | .conditional _ => []
  | .startGame _ => []
  | .restartGame _ => [t.restartStopWait, t.restartStartWait]
  | .repeatGroup _ => []
  | .gachaCheck _ => []

/-- The waits of a workflow. -/
def Workflow.waits (w : Workflow) (t : TimingSettings) : List Float :=
  w.steps.flatMap fun s => s.action.waits t

section

variable {waits : List Float} {n : Nat}

/-- A command and the wait after it. -/
theorem lasts_gesture (c : Command) {settle : Float} (hsettle : settle ∈ waits) :
    (gesture c settle).run.Lasts (TooLong waits) n := by
  refine ((halts_order c).lasts n).inPlay.bind_except fun _ => ?_
  exact (lasts_pauseSeconds hsettle).inPlay.bind_except fun _ => trivial

/-- Whole milliseconds are never too long. -/
theorem ofMillis_short (n : UInt64) : (Duration.ofMillis n.toNat).nanos < Stoppable.longestPause := by
  have hlimit : n.toNat < 0x10000000000000000 := n.toNat_lt
  show n.toNat * 1000000 < 0x8000000000000000 * 1000000000
  omega

/-- A wait as a step. -/
theorem lasts_wait (s : Wait) : s.play.run.Lasts (TooLong waits) n := by
  have hpause : (Stoppable.pause (.ofMillis s.millis.toNat)).run.Halts (TooLong waits) :=
    halts_pause fun hlong => absurd (ofMillis_short s.millis) (Nat.not_lt.2 hlong)
  exact (hpause.lasts n).inPlay.bind_except fun _ => trivial

/-- Taps one after the other. -/
theorem lasts_tapAll (ctx : Context) (hsettle : ctx.settings.timing.clickSettle ∈ waits)
    (hgap : ctx.settings.timing.findAllGap ∈ waits) (gap : Bool) (ps : List Point) :
    (tapAll ctx gap ps).run.Lasts (TooLong waits) n := by
  induction ps generalizing gap with
  | nil => exact (lasts_pauseSeconds hsettle).inPlay
  | cons p rest ih =>
    have htap : (do
        let _ ← Stoppable.order (.tap p.x p.y)
        tapAll ctx true rest : Play Unit).run.Lasts (TooLong waits) n :=
      ((halts_order _).lasts n).inPlay.bind_except fun _ => ih true
    unfold tapAll
    split
    · exact (lasts_pauseSeconds hgap).inPlay.bind_except fun _ => htap
    · exact htap

/-- A search asks for the time in each round. -/
theorem lasts_search_look (s : TemplateSearch) (ctx : Context) (all : Bool)
    (limits : TemplateSearch.Limits) (hwaits : s.waits ctx.settings.timing ⊆ waits)
    (hinterval : Duration.ofSeconds? s.retryInterval = some limits.interval)
    (rounds : Nat) (attempts : UInt32) (hn : n ≤ rounds) :
    (s.look ctx all limits rounds attempts).run.Lasts (TooLong waits) n := by
  induction rounds generalizing n attempts with
  | zero => exact .inr ⟨rfl, Nat.eq_zero_of_le_zero hn⟩
  | succ rounds ih =>
    have hround : n - 1 ≤ rounds := by omega
    have hagain (k : UInt32) : (do
        Stoppable.pause limits.interval
        s.look ctx all limits rounds k : Play _).run.Lasts (TooLong waits) (n - 1) :=
      (lasts_pause (hwaits (by simp [TemplateSearch.waits])) hinterval).inPlay.bind_except
        fun _ => ih k hround
    have htaps (found : List Point) : (do
        tapAll ctx false found
        return none : Play (Option UInt32)).run.Lasts (TooLong waits) (n - 1) :=
      (lasts_tapAll ctx (hwaits (by simp [TemplateSearch.waits]))
        (hwaits (by simp [TemplateSearch.waits])) _ _).bind_except fun _ => trivial
    unfold TemplateSearch.look
    refine lasts_ask fun now => ?_
    dsimp only
    split
    · exact trivial
    split
    · exact trivial
    refine lasts_capture.attempt.bind_except fun shot => ?_
    cases shot with
    | error e => exact hagain _
    | ok screen =>
      have hhits : (s.hits ctx all screen).Lasts (TooLong waits) (n - 1) := by
        unfold TemplateSearch.hits
        split
        · exact lasts_locateAll _ _ _ _
        · exact (lasts_locate _ _ _ _).bind fun _ => trivial
      refine hhits.talk.bind_except fun found => ?_
      split
      · exact hagain _
      · exact htaps found

/-- A search. -/
theorem lasts_search (s : TemplateSearch) (ctx : Context) (all : Bool)
    (hwaits : s.waits ctx.settings.timing ⊆ waits) (hn : n ≤ ctx.rounds) :
    (s.play ctx all).run.Lasts (TooLong waits) n := by
  have hmax : s.maxWaitSeconds ∈ waits := hwaits (by simp [TemplateSearch.waits])
  have hretry : s.retryInterval ∈ waits := hwaits (by simp [TemplateSearch.waits])
  unfold TemplateSearch.play
  refine (lasts_seconds hmax).talk.bind_except fun wait => ?_
  refine (lasts_seconds hretry).talk.bind_except_yields (yields_talk (yields_seconds _))
    fun interval hinterval => ?_
  refine lasts_ask fun started => ?_
  refine (lasts_search_look s ctx all _ hwaits hinterval _ _ (by omega)).bind_except fun found => ?_
  cases found with
  | none => exact trivial
  | some attempts =>
    dsimp only
    split
    · exact trivial
    · exact lasts_ask fun now => trivial

/-- Taps on a template for as long as it turns up. -/
theorem lasts_loopClick_look (s : LoopClick) (ctx : Context)
    (hwaits : s.waits ctx.settings.timing ⊆ waits) (looks misses : Nat) :
    (s.look ctx looks misses).run.Lasts (TooLong waits) n := by
  induction looks generalizing misses with
  | zero => exact trivial
  | succ looks ih =>
    have hwait {x : Float} (hx : x ∈ s.waits ctx.settings.timing) :
        (liftM (Stoppable.pauseSeconds x) : Play Unit).run.Lasts (TooLong waits) n :=
      (lasts_pauseSeconds (hwaits hx)).inPlay
    unfold LoopClick.look
    refine lasts_capture.attempt.bind_except fun shot => ?_
    cases shot with
    | error e => exact (hwait (by simp [LoopClick.waits])).bind_except fun _ => ih _
    | ok screen =>
      refine (lasts_locate _ _ _ _).talk.bind_except fun hit => ?_
      cases hit with
      | some p =>
        refine ((halts_order _).lasts n).inPlay.bind_except fun _ => ?_
        exact (hwait (by simp [LoopClick.waits])).bind_except fun _ => ih _
      | none =>
        dsimp only
        split
        · exact trivial
        · exact (hwait (by simp [LoopClick.waits])).bind_except fun _ => ih _

/-- A wait for a colour asks for the time in each round. -/
theorem lasts_colorWait_look (s : ColorWait) (bgr : UInt8 × UInt8 × UInt8) (started : Nat)
    (wait interval : Duration) (hwaits : s.waits ⊆ waits)
    (hinterval : Duration.ofSeconds? s.checkInterval = some interval) (rounds : Nat)
    (hn : n ≤ rounds) : (s.look bgr started wait interval rounds).run.Lasts (TooLong waits) n := by
  induction rounds generalizing n with
  | zero => exact .inr ⟨rfl, Nat.eq_zero_of_le_zero hn⟩
  | succ rounds ih =>
    have hagain : (do
        Stoppable.pause interval
        s.look bgr started wait interval rounds : Play _).run.Lasts (TooLong waits) (n - 1) :=
      (lasts_pause (hwaits (by simp [ColorWait.waits])) hinterval).inPlay.bind_except
        fun _ => ih (by omega)
    unfold ColorWait.look
    refine lasts_ask fun now => ?_
    dsimp only
    split
    · exact trivial
    refine lasts_capture.attempt.bind_except fun shot => ?_
    cases shot with
    | error e => exact hagain
    | ok screen =>
      dsimp only
      split
      · exact trivial
      · exact trivial
      · exact hagain

/-- A wait for a colour. -/
theorem lasts_colorWait (s : ColorWait) (ctx : Context) (hwaits : s.waits ⊆ waits)
    (hn : n ≤ ctx.rounds) : (s.play ctx).run.Lasts (TooLong waits) n := by
  have hmax : s.maxWaitSeconds ∈ waits := hwaits (by simp [ColorWait.waits])
  have hcheck : s.checkInterval ∈ waits := hwaits (by simp [ColorWait.waits])
  unfold ColorWait.play
  split
  · exact trivial
  refine (lasts_seconds hmax).talk.bind_except fun wait => ?_
  refine (lasts_seconds hcheck).talk.bind_except_yields (yields_talk (yields_seconds _))
    fun interval hinterval => ?_
  refine lasts_ask fun started => ?_
  refine (lasts_colorWait_look s _ _ _ _ hwaits hinterval _ (by omega)).bind_except fun inTime => ?_
  split
  · exact trivial
  · exact lasts_ask fun now => trivial

/-- A conditional step. -/
theorem lasts_conditional (s : Conditional) (ctx : Context) (index : Nat) :
    (s.play ctx index).run.Lasts (TooLong waits) n := by
  unfold Conditional.play
  refine lasts_capture.attempt.bind_except fun shot => ?_
  dsimp only
  cases shot
  case' ok screen => refine (lasts_locate _ _ _ _).talk.bind_except fun hit => ?_
  all_goals
    refine Lasts.bind_except (x := pure _) trivial fun found => ?_
    split
    · exact lasts_ask fun _ => trivial
    · split
      · exact lasts_ask fun _ => trivial
      · exact lasts_ask fun _ => trivial

/-- A privileged command. -/
theorem lasts_privilegedOrFail (line : String) :
    (privilegedOrFail line).run.Lasts (TooLong waits) n := by
  refine lasts_ask fun reply => ?_
  cases reply <;> exact trivial

/-- An export. -/
theorem lasts_exportAccount (ctx : Context) (folder label : String) :
    (exportAccount ctx folder label).run.Lasts (TooLong waits) n := by
  unfold exportAccount
  refine lasts_ask fun made => ?_
  cases made with
  | error e => exact trivial
  | ok _ =>
    refine lasts_ask fun today => ?_
    refine (halts_checkpoint.lasts _).inPlay.bind_except fun _ => ?_
    refine (lasts_privilegedOrFail _).bind_except fun _ => ?_
    refine (lasts_privilegedOrFail _).bind_except fun _ => ?_
    refine lasts_ask fun pulled => ?_
    refine lasts_ask fun _ => ?_
    cases pulled <;> exact trivial

/-- A look for a drawn name. -/
theorem lasts_gachaCheck (s : GachaCheck) (ctx : Context) :
    (s.play ctx).run.Lasts (TooLong waits) n := by
  have hnote (name : String) : (do
      Talk.note (.matched name)
      pure (.matched name) : Play Flow).run.Lasts (TooLong waits) n :=
    lasts_ask fun _ => trivial
  unfold GachaCheck.play
  dsimp only
  split
  · exact trivial
  refine lasts_capture.attempt.bind_except fun shot => ?_
  cases shot with
  | error e => exact trivial
  | ok screen =>
    refine (lasts_readText _ _).talk.bind_except fun text => ?_
    cases text with
    | none => exact trivial
    | some text =>
      dsimp only
      split
      · exact trivial
      split
      · exact (lasts_exportAccount _ _ _).attempt.bind_except fun _ => hnote _
      · exact hnote _

/-! ## Groups and the workflow -/

/-- An action that is not the repetition of a group. -/
theorem lasts_playSingle (ctx : Context) (index : Nat) (a : Action)
    (hwaits : a.waits ctx.settings.timing ⊆ waits) (hn : n ≤ ctx.rounds) :
    (a.playSingle ctx index).run.Lasts (TooLong waits) n := by
  cases a with
  | click s => exact lasts_gesture _ (hwaits List.mem_cons_self)
  | swipe s => exact lasts_gesture _ (hwaits List.mem_cons_self)
  | wait s => exact lasts_wait s
  | imageMatch s => exact lasts_search s ctx _ hwaits hn
  | findAllClick s => exact lasts_search s ctx _ hwaits hn
  | loopClick s => exact (lasts_loopClick_look s ctx hwaits _ _).bind_except fun _ => trivial
  | waitForColor s => exact lasts_colorWait s ctx hwaits hn
  | pressBack => exact lasts_gesture _ (hwaits List.mem_cons_self)
  | conditional s => exact lasts_conditional s ctx index
  | startGame s => exact trivial
  | restartGame s =>
    refine (lasts_gesture _ (hwaits List.mem_cons_self)).bind_except fun _ => ?_
    exact lasts_gesture _ (hwaits (List.mem_cons_of_mem _ List.mem_cons_self))
  | repeatGroup s => exact trivial
  | gachaCheck s => exact lasts_gachaCheck s ctx

/-- A pass. -/
theorem lasts_pass (ctx : Context) (members : List (Nat × Step))
    (hwaits : ∀ m ∈ members, m.2.action.waits ctx.settings.timing ⊆ waits) (hn : n ≤ ctx.rounds) :
    (RepeatGroup.pass ctx members).run.Lasts (TooLong waits) n := by
  induction members generalizing n with
  | nil => exact trivial
  | cons m rest ih =>
    have hrest : n - 1 ≤ ctx.rounds := by omega
    refine lasts_ask fun _ => ?_
    have hmember := lasts_playSingle ctx m.1 m.2.action (hwaits m List.mem_cons_self) hrest
    refine hmember.attempt.bind_except fun r => ?_
    split
    · exact trivial
    · exact ih (fun m hm => hwaits m (List.mem_cons_of_mem _ hm)) hrest

/-- The look for the stop template. -/
theorem lasts_stopSeen (s : RepeatGroup) (ctx : Context) :
    (s.stopSeen ctx).run.Lasts (TooLong waits) n := by
  unfold RepeatGroup.stopSeen
  split
  · exact trivial
  refine lasts_capture.attempt.bind_except fun shot => ?_
  cases shot with
  | error e => exact trivial
  | ok screen => exact (lasts_locate _ _ _ _).talk.bind_except fun _ => trivial

/-- All passes. -/
theorem lasts_passes (s : RepeatGroup) (ctx : Context) (members : List (Nat × Step))
    (hwaits : ∀ m ∈ members, m.2.action.waits ctx.settings.timing ⊆ waits) (hn : n ≤ ctx.rounds)
    (k : Nat) : (s.passes ctx members k).run.Lasts (TooLong waits) n := by
  induction k with
  | zero => exact trivial
  | succ k ih =>
    unfold RepeatGroup.passes
    refine (halts_checkpoint.lasts n).inPlay.bind_except fun _ => ?_
    refine (lasts_pass ctx members hwaits hn).bind_except fun hit => ?_
    split
    · exact trivial
    refine (lasts_stopSeen s ctx).bind_except fun seen => ?_
    split
    · exact trivial
    · exact ih

/-- The members of a group are steps of the workflow. -/
theorem Workflow.waits_member {w : Workflow} {group : String} {m : Nat × Step}
    (hm : m ∈ w.members group) (t : TimingSettings) : m.2.action.waits t ⊆ w.waits t := by
  obtain ⟨⟨s, i⟩, hs, rfl⟩ := List.mem_map.1 (List.mem_filter.1 hm).1
  have hstep : s ∈ w.steps := (List.mem_zipIdx hs).2.2 ▸ List.getElem_mem _
  exact fun x hx => List.mem_flatMap.2 ⟨s, hstep, hx⟩

/-- A repeated group. -/
theorem lasts_repeatGroup (s : RepeatGroup) (ctx : Context)
    (hwaits : ctx.workflow.waits ctx.settings.timing ⊆ waits) (hn : n ≤ ctx.rounds) :
    (s.play ctx).run.Lasts (TooLong waits) n := by
  unfold RepeatGroup.play
  dsimp only
  split
  · exact trivial
  split
  · exact trivial
  · have hmembers : ∀ m ∈ ctx.workflow.members (s.group.getD ""),
        m.2.action.waits ctx.settings.timing ⊆ waits :=
      fun m hm x hx => hwaits (Workflow.waits_member hm _ hx)
    exact (lasts_passes s ctx _ hmembers hn _).bind_except fun _ => trivial

/-- A step of the workflow. -/
theorem lasts_dispatch (ctx : Context) (index : Nat) {s : Step} (hs : s ∈ ctx.workflow.steps)
    (hwaits : ctx.workflow.waits ctx.settings.timing ⊆ waits) (hn : n ≤ ctx.rounds) :
    (ctx.dispatch index s).Lasts (TooLong waits) n := by
  have haction : (s.action.play ctx index).run.Lasts (TooLong waits) (n - 1) := by
    have hrest : n - 1 ≤ ctx.rounds := by omega
    unfold Action.play
    split
    · exact lasts_repeatGroup _ ctx hwaits hrest
    · refine lasts_playSingle ctx index s.action (fun x hx => ?_) hrest
      exact hwaits (List.mem_flatMap.2 ⟨s, hs, hx⟩)
  refine fun _ => haction.bind fun r => ?_
  split <;> exact trivial

/-- The workflow asks whether to stop before each step. -/
theorem lasts_playFrom (ctx : Context) (hwaits : ctx.workflow.waits ctx.settings.timing ⊆ waits)
    (rounds index executed : Nat) (hrounds : rounds ≤ ctx.rounds) (hn : n ≤ rounds) :
    (ctx.playFrom rounds index executed).Lasts (TooLong waits) n := by
  induction rounds generalizing n index executed with
  | zero => exact .inr ⟨rfl, Nat.eq_zero_of_le_zero hn⟩
  | succ rounds ih =>
    have hgo (target executed : Nat) :
        (ctx.playFrom rounds target executed).Lasts (TooLong waits) (n - 1) :=
      ih target executed (by omega) (by omega)
    unfold Context.playFrom
    split
    · exact trivial
    next s hs =>
      refine fun stop => ?_
      cases stop with
      | true => exact trivial
      | false =>
        show Lasts _ (if _ then _ else _) _
        split
        · exact hgo _ _
        · have hdispatch := lasts_dispatch ctx index (List.mem_of_getElem? hs) hwaits
            (n := n - 1) (by omega)
          refine hdispatch.bind fun r => ?_
          cases r with
          | ok target => exact hgo _ _
          | error e => exact trivial

/-- A workflow breaks off only at a wait that is too long, unless it is answered as often as there
are rounds. -/
theorem lasts_play (ctx : Context) :
    ctx.play.Lasts (TooLong (ctx.workflow.waits ctx.settings.timing)) ctx.rounds :=
  lasts_playFrom ctx (fun _ hx => hx) _ _ _ (Nat.le_refl _) (Nat.le_refl _)

end

end Autoplay
