import Autoplay.Proofs.Run.Conduct

/-!
# The parts of a run are orderly

Each kind of step checks before each of its commands, takes a question that fails for one that
finds nothing, and goes on in the same way whether a gesture fails or not. The only commands that
follow one another after a single check are those of an export. The main statement is
`orderly_run`.
-/

namespace Autoplay

variable {marks : Request → Prop} {sequences : List Command → Prop} {α : Type}

/-! ## Checks, waits and screenshots -/

/-- A check. -/
theorem orderly_checkpoint : OrderlyAs marks sequences ⟨⟩ Stoppable.checkpoint := by
  refine .of_check (orderlyAs_pure ()).cleared ?_
  show Dialogue.ask _ _ = _
  congr 1

/-- A wait. -/
theorem orderly_pause (d : Duration) : OrderlyAs marks sequences ⟨⟩ (Stoppable.pause d) := by
  have hwait : OrderlyAs marks sequences ⟨⟩
      (do if ← Talk.ask (.pause d) then throw ⟨⟩ : Stoppable Unit) := by
    refine ⟨orderly_ask nofun rfl (fun _ => rfl) fun told => ?_, ?_⟩
    · cases told <;> exact orderly_done _
    · rintro t ⟨told, rest, rfl, h⟩
      cases told with
      | true => exact ⟨_, List.mem_cons_self, rfl⟩
      | false => exact nomatch h.2
  unfold Stoppable.pause
  split
  · exact (orderly_stoppable (orderly_halt _)).bind fun _ => hwait
  · exact hwait

/-- Reading a number of seconds. -/
theorem orderly_seconds (x : Float) : Orderly marks sequences (Talk.seconds x) := by
  unfold Talk.seconds
  split
  · exact orderly_done _
  · exact orderly_halt _

/-- A wait for a number of seconds. -/
theorem orderly_pauseSeconds (x : Float) :
    OrderlyAs marks sequences ⟨⟩ (Stoppable.pauseSeconds x) :=
  (orderly_stoppable (orderly_seconds x)).bind fun d => orderly_pause d

/-- A reading of the clock. -/
theorem orderly_clock : Orderly marks sequences Talk.clock :=
  orderly_request nofun rfl fun _ => rfl

/-- A screenshot. -/
theorem orderly_capture : OrderlyAs marks sequences .aborted Play.capture := by
  refine orderly_order_play (fun _ => rfl) fun shot => ?_
  cases shot with
  | ok screen => exact orderlyAs_pure _
  | error e => exact orderlyAs_throw nofun

/-- The best hit of a template; a question that fails is a miss. -/
theorem orderly_locate (ctx : Context) (screen : Picture) (template : String)
    (threshold : Float32) : Orderly marks sequences (ctx.locate screen template threshold) := by
  refine orderly_ask nofun rfl (fun hit => ?_) fun hit => ?_
  · cases hit <;> rfl
  · cases hit <;> exact orderly_done _

/-- All hits of a template; a question that fails is a miss. -/
theorem orderly_locateAll (ctx : Context) (screen : Picture) (template : String)
    (threshold : Float32) : Orderly marks sequences (ctx.locateAll screen template threshold) := by
  refine orderly_ask nofun rfl (fun hits => ?_) fun hits => ?_
  · cases hits <;> rfl
  · cases hits <;> exact orderly_done _

/-- What is written on a screen, and what follows. When a question that fails is to be taken for an
empty text, the rest has to take no text for an empty one. -/
theorem orderly_readText {screen : Picture} {region : Option Region} {f : Option String → Play α}
    (hblank : f (some "") = f none) (hf : ∀ text, OrderlyAs marks sequences .aborted (f text)) :
    OrderlyAs marks sequences .aborted (liftM (Context.readText screen region) >>= f : Play α) := by
  refine .of_ask (q := .readText screen region) (f := fun r => f (Except.toOption r))
    nofun rfl (fun r => ?_) (fun r => ?_) ?_
  · cases r with
    | ok text => rfl
    | error e => exact hblank
  · cases r <;> exact hf _
  · show Dialogue.ask _ _ = _
    congr 1
    funext r
    cases r <;> rfl

/-! ## Kinds of steps -/

/-- A command and the wait after it. -/
theorem orderly_gesture (c : Command) (settle : Float) :
    OrderlyAs marks sequences .aborted (gesture c settle) :=
  orderly_order_play (fun _ => rfl) fun _ =>
    (orderly_pauseSeconds settle).inPlay.bind fun _ => orderlyAs_pure _

/-- A wait as a step. -/
theorem orderly_wait (s : Wait) : OrderlyAs marks sequences .aborted s.play :=
  (orderly_pause _).inPlay.bind fun _ => orderlyAs_pure _

/-- Closing the game and starting it again. -/
theorem orderly_restart (s : App) (ctx : Context) :
    OrderlyAs marks sequences .aborted (s.restart ctx) :=
  (orderly_gesture _ _).bind fun _ => orderly_gesture _ _

/-- Taps one after the other. -/
theorem orderly_tapAll (ctx : Context) (gap : Bool) (ps : List Point) :
    OrderlyAs marks sequences .aborted (tapAll ctx gap ps) := by
  induction ps generalizing gap with
  | nil => exact (orderly_pauseSeconds _).inPlay
  | cons p rest ih =>
    have htap : OrderlyAs marks sequences .aborted (do
        let _ ← Stoppable.order (.tap p.x p.y)
        tapAll ctx true rest : Play Unit) := orderly_order_play (fun _ => rfl) fun _ => ih true
    unfold tapAll
    split
    · exact (orderly_pauseSeconds _).inPlay.bind fun _ => htap
    · exact htap

/-- The hits of a search on a screen. -/
theorem orderly_hits (s : TemplateSearch) (ctx : Context) (all : Bool) (screen : Picture) :
    Orderly marks sequences (s.hits ctx all screen) := by
  unfold TemplateSearch.hits
  split
  · exact orderly_locateAll _ _ _ _
  · exact (orderly_locate _ _ _ _).bind fun _ => orderly_done _

/-- The looks of a search. -/
theorem orderly_search_look (s : TemplateSearch) (ctx : Context) (all : Bool)
    (limits : TemplateSearch.Limits) (rounds : Nat) (attempts : UInt32) :
    OrderlyAs marks sequences .aborted (s.look ctx all limits rounds attempts) := by
  induction rounds generalizing attempts with
  | zero => exact orderly_play (orderly_halt _)
  | succ rounds ih =>
    have hagain (n : UInt32) : OrderlyAs marks sequences .aborted (do
        Stoppable.pause limits.interval
        s.look ctx all limits rounds n : Play _) := (orderly_pause _).inPlay.bind fun _ => ih n
    unfold TemplateSearch.look
    refine (orderly_play orderly_clock).bind fun now => ?_
    dsimp only
    split
    · exact orderlyAs_pure _
    split
    · exact orderlyAs_pure _
    refine orderly_capture.attempt.bind fun shot => ?_
    cases shot with
    | error e => exact hagain _
    | ok screen =>
      refine (orderly_play (orderly_hits s ctx all screen)).bind fun found => ?_
      split
      · exact hagain _
      · exact (orderly_tapAll _ _ _).bind fun _ => orderlyAs_pure _

/-- A search. -/
theorem orderly_search (s : TemplateSearch) (ctx : Context) (all : Bool) :
    OrderlyAs marks sequences .aborted (s.play ctx all) := by
  refine (orderly_play (orderly_seconds _)).bind fun wait => ?_
  refine (orderly_play (orderly_seconds _)).bind fun interval => ?_
  refine (orderly_play orderly_clock).bind fun started => ?_
  refine (orderly_search_look s ctx all _ _ _).bind fun found => ?_
  cases found with
  | none => exact orderlyAs_pure _
  | some attempts =>
    dsimp only
    split
    · exact orderlyAs_pure _
    · exact (orderly_play orderly_clock).bind fun now => orderlyAs_throw nofun

/-- Looks that tap a template for as long as it turns up. -/
theorem orderly_loopClick_look (s : LoopClick) (ctx : Context) (looks misses : Nat) :
    OrderlyAs marks sequences .aborted (s.look ctx looks misses) := by
  induction looks generalizing misses with
  | zero => exact orderlyAs_pure _
  | succ looks ih =>
    unfold LoopClick.look
    refine orderly_capture.attempt.bind fun shot => ?_
    cases shot with
    | error e => exact (orderly_pauseSeconds _).inPlay.bind fun _ => ih _
    | ok screen =>
      refine (orderly_play (orderly_locate _ _ _ _)).bind fun hit => ?_
      cases hit with
      | some p =>
        exact orderly_order_play (fun _ => rfl) fun _ =>
          (orderly_pauseSeconds _).inPlay.bind fun _ => ih _
      | none =>
        dsimp only
        split
        · exact orderlyAs_pure _
        · exact (orderly_pauseSeconds _).inPlay.bind fun _ => ih _

/-- Tapping a template for as long as it turns up. -/
theorem orderly_loopClick (s : LoopClick) (ctx : Context) :
    OrderlyAs marks sequences .aborted (s.play ctx) :=
  (orderly_loopClick_look s ctx _ _).bind fun _ => orderlyAs_pure _

/-- The looks for a colour. -/
theorem orderly_colorWait_look (s : ColorWait) (bgr : UInt8 × UInt8 × UInt8) (started : Nat)
    (wait interval : Duration) (rounds : Nat) :
    OrderlyAs marks sequences .aborted (s.look bgr started wait interval rounds) := by
  induction rounds with
  | zero => exact orderly_play (orderly_halt _)
  | succ rounds ih =>
    have hagain : OrderlyAs marks sequences .aborted (do
        Stoppable.pause interval
        s.look bgr started wait interval rounds : Play _) :=
      (orderly_pause _).inPlay.bind fun _ => ih
    unfold ColorWait.look
    refine (orderly_play orderly_clock).bind fun now => ?_
    dsimp only
    split
    · exact orderlyAs_pure _
    refine orderly_capture.attempt.bind fun shot => ?_
    cases shot with
    | error e => exact hagain
    | ok screen =>
      dsimp only
      split
      · exact orderlyAs_throw nofun
      · exact orderlyAs_pure _
      · exact hagain

/-- The wait for a colour. -/
theorem orderly_colorWait (s : ColorWait) (ctx : Context) :
    OrderlyAs marks sequences .aborted (s.play ctx) := by
  unfold ColorWait.play
  split
  · exact orderlyAs_throw nofun
  refine (orderly_play (orderly_seconds _)).bind fun wait => ?_
  refine (orderly_play (orderly_seconds _)).bind fun interval => ?_
  refine (orderly_play orderly_clock).bind fun started => ?_
  refine (orderly_colorWait_look s _ _ _ _ _).bind fun inTime => ?_
  split
  · exact orderlyAs_pure _
  · exact (orderly_play orderly_clock).bind fun now => orderlyAs_throw nofun

/-- A note that marks no step. -/
theorem orderly_note {n : Note} (hn : (Request.note n).isMark = true → marks (.note n)) :
    Orderly marks sequences (Talk.note n) :=
  orderly_request hn rfl fun _ => rfl

/-- A conditional step. -/
theorem orderly_conditional (s : Conditional) (ctx : Context) (index : Nat) :
    OrderlyAs marks sequences .aborted (s.play ctx index) := by
  have hnote (d : Decision) : OrderlyAs marks sequences .aborted
      (liftM (Talk.note (.decided d)) : Play Unit) := orderly_play (orderly_note nofun)
  unfold Conditional.play
  refine orderly_capture.attempt.bind fun shot => ?_
  dsimp only
  cases shot
  case' ok screen => refine (orderly_play (orderly_locate _ _ _ _)).bind fun hit => ?_
  all_goals
    refine (orderlyAs_pure _).bind fun found => ?_
    split
    · exact (hnote _).bind fun _ => orderlyAs_pure _
    · split
      · exact (hnote _).bind fun _ => orderlyAs_pure _
      · exact (hnote _).bind fun _ => orderlyAs_throw nofun

/-! ## Exports -/

/-- The commands of an export to a file. -/
def GameSettings.exportCommands (g : GameSettings) (dest : String) : List Command :=
  [.privileged ("cp '" ++ g.prefPath ++ "' '" ++ g.exportTempPath ++ "'"),
    .privileged ("chmod 644 '" ++ g.exportTempPath ++ "'"),
    .pull g.exportTempPath dest,
    .privileged ("rm '" ++ g.exportTempPath ++ "'")]

/-- An export gives its commands after a single check. -/
theorem orderly_exportAccount (ctx : Context) (folder label : String)
    (hsequences : ∀ dest, sequences (ctx.settings.game.exportCommands dest)) :
    OrderlyAs marks sequences .aborted (exportAccount ctx folder label) := by
  unfold exportAccount
  refine (orderly_play (orderly_request nofun rfl fun _ => rfl)).bind fun made => ?_
  cases made with
  | error e => exact orderlyAs_throw nofun
  | ok _ =>
    refine (orderly_play (orderly_request nofun rfl fun _ => rfl)).bind fun today => ?_
    refine orderly_checked_play ?_
    refine .of_gives (f := fun r => ExceptT.mk (.done r)) ?_
      (fun r (hr : r ≠ .error .aborted) =>
        ⟨orderly_done r, fun h => absurd (Except.ok.inj h.2) hr.symm⟩)
      (Dialogue.bind_done _).symm
    -- The copying and the change of rights may each be the last command.
    have hpart (n : Nat) : ∃ whole, (ctx.settings.game.exportCommands (Path.join folder
        (exportFileName label today ctx.settings.game.prefFileName))).take n <+: whole ∧
        sequences whole :=
      ⟨_, List.take_prefix _ _, hsequences _⟩
    refine ⟨_, rfl, fun _ => rfl, fun copied => ?_⟩
    cases copied with
    | error e => exact ⟨nofun, hpart 1⟩
    | ok _ =>
      refine ⟨_, rfl, fun _ => rfl, fun allowed => ?_⟩
      cases allowed with
      | error e => exact ⟨nofun, hpart 2⟩
      | ok _ =>
        refine ⟨_, rfl, fun _ => rfl, fun pulled => ⟨_, rfl, fun _ => rfl, fun _ => ?_⟩⟩
        cases pulled <;> exact ⟨nofun, hpart 4⟩

/-- A look at what was drawn. -/
theorem orderly_gachaCheck (s : GachaCheck) (ctx : Context)
    (hsequences : ∀ dest, sequences (ctx.settings.game.exportCommands dest)) :
    OrderlyAs marks sequences .aborted (s.play ctx) := by
  have hnote (name : String) : OrderlyAs marks sequences .aborted (do
      Talk.note (.matched name)
      pure (.matched name) : Play Flow) :=
    (orderly_play (orderly_note nofun)).bind fun _ => orderlyAs_pure _
  unfold GachaCheck.play
  dsimp only
  split
  · exact orderlyAs_throw nofun
  refine orderly_capture.attempt.bind fun shot => ?_
  cases shot with
  | error e => exact orderlyAs_pure _
  | ok screen =>
    refine orderly_readText ?_ fun text => ?_
    · -- No name is found in an empty text, so it leads to the next step as well.
      have hnone (leastSimilarity : Float32) :
          Recognition.findName "" s.wanted leastSimilarity = none := if_pos (by decide)
      simp only [hnone]
    · cases text with
      | none => exact orderlyAs_pure _
      | some text =>
        dsimp only
        split
        · exact orderlyAs_pure _
        split
        · exact (orderly_exportAccount _ _ _ hsequences).attempt.bind fun _ => hnote _
        · exact hnote _

/-! ## Groups and the workflow -/

section

variable (ctx : Context) (hsequences : ∀ dest, sequences (ctx.settings.game.exportCommands dest))

include hsequences

/-- An action that is not the repetition of a group. -/
theorem orderly_playSingle (index : Nat) (a : Action) :
    OrderlyAs marks sequences .aborted (a.playSingle ctx index) := by
  cases a with
  | click s => exact orderly_gesture _ _
  | swipe s => exact orderly_gesture _ _
  | wait s => exact orderly_wait s
  | imageMatch s => exact orderly_search s ctx _
  | findAllClick s => exact orderly_search s ctx _
  | loopClick s => exact orderly_loopClick s ctx
  | waitForColor s => exact orderly_colorWait s ctx
  | pressBack => exact orderly_gesture _ _
  | conditional s => exact orderly_conditional s ctx index
  | startGame s => exact orderlyAs_pure _
  | restartGame s => exact orderly_restart s ctx
  | repeatGroup s => exact orderlyAs_pure _
  | gachaCheck s => exact orderly_gachaCheck s ctx hsequences

/-- A pass of a group; only members are joined. -/
theorem orderly_pass (members : List (Nat × Step))
    (hmarks : ∀ m ∈ members, marks (.note (.joined m.1))) :
    OrderlyAs marks sequences .aborted (RepeatGroup.pass ctx members) := by
  induction members with
  | nil => exact orderlyAs_pure _
  | cons m rest ih =>
    obtain ⟨hm, hrest⟩ := List.forall_mem_cons.1 hmarks
    refine (orderly_play (orderly_note fun _ => hm)).bind fun _ => ?_
    refine (orderly_playSingle ctx hsequences m.1 m.2.action).attempt.bind fun r => ?_
    split
    · exact orderlyAs_pure _
    · exact ih hrest

omit hsequences in
/-- The look for the stop template. -/
theorem orderly_stopSeen (s : RepeatGroup) :
    OrderlyAs marks sequences .aborted (s.stopSeen ctx) := by
  unfold RepeatGroup.stopSeen
  split
  · exact orderlyAs_pure _
  refine orderly_capture.attempt.bind fun shot => ?_
  cases shot with
  | error e => exact orderlyAs_pure _
  | ok screen => exact (orderly_play (orderly_locate _ _ _ _)).bind fun _ => orderlyAs_pure _

/-- The passes of a group. -/
theorem orderly_passes (s : RepeatGroup) (members : List (Nat × Step))
    (hmarks : ∀ m ∈ members, marks (.note (.joined m.1))) (n : Nat) :
    OrderlyAs marks sequences .aborted (s.passes ctx members n) := by
  induction n with
  | zero => exact orderlyAs_pure _
  | succ n ih =>
    unfold RepeatGroup.passes
    refine orderly_checkpoint.inPlay.bind fun _ => ?_
    refine (orderly_pass ctx hsequences members hmarks).bind fun hit => ?_
    split
    · exact orderlyAs_pure _
    refine (orderly_stopSeen ctx s).bind fun seen => ?_
    split
    · exact orderlyAs_pure _
    · exact ih

/-- The repetition of a group. -/
theorem orderly_repeatGroup (s : RepeatGroup)
    (hmarks : ∀ group, s.group = some group → ∀ m ∈ ctx.workflow.members group,
      marks (.note (.joined m.1))) :
    OrderlyAs marks sequences .aborted (s.play ctx) := by
  unfold RepeatGroup.play
  dsimp only
  split
  · exact orderlyAs_throw nofun
  split
  · exact orderlyAs_throw nofun
  next hgroup _ =>
    refine (orderly_passes ctx hsequences s _ ?_ _).bind fun _ => orderlyAs_pure _
    -- The group has a name, since its name is not empty.
    cases hs : s.group with
    | none => exact absurd (by rw [hs]; rfl) hgroup
    | some group => exact hmarks group hs

/-- An action. Only members of a group are joined, and only by its repetition. -/
theorem orderly_action (index : Nat) (a : Action)
    (hmarks : ∀ s group, a = .repeatGroup s → s.group = some group →
      ∀ m ∈ ctx.workflow.members group, marks (.note (.joined m.1))) :
    OrderlyAs marks sequences .aborted (a.play ctx index) := by
  unfold Action.play
  split
  next s => exact orderly_repeatGroup ctx hsequences s fun group => hmarks s group rfl
  · exact orderly_playSingle ctx hsequences index a

/-- The play of a step. -/
theorem orderly_dispatch (hmarks : ∀ q, marks q) (index : Nat) (s : Step) :
    Orderly marks sequences (ctx.dispatch index s) := by
  refine (orderly_note fun _ => hmarks _).bind fun _ => ?_
  refine (orderly_action ctx hsequences index s.action ?_).orderly.bind fun r => ?_
  · exact fun _ _ _ _ _ _ => hmarks _
  · split <;> exact orderly_done _

/-- The run of a workflow from a position on. -/
theorem orderly_playFrom (hmarks : ∀ q, marks q) (n index executed : Nat) :
    Orderly marks sequences (ctx.playFrom n index executed) := by
  induction n generalizing index executed with
  | zero => exact orderly_halt _
  | succ n ih =>
    unfold Context.playFrom
    split
    · exact orderly_done _
    refine (orderly_request nofun rfl fun _ => rfl).bind fun stop => ?_
    split
    · exact orderly_done _
    split
    · exact ih _ _
    refine (orderly_dispatch ctx hsequences hmarks _ _).bind fun r => ?_
    split
    · exact ih _ _
    · exact orderly_done _

/-- The run of a workflow. -/
theorem orderly_run (hmarks : ∀ q, marks q) : Orderly marks sequences ctx.play :=
  orderly_playFrom ctx hsequences hmarks _ _ _

end

end Autoplay
