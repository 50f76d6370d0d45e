import Autoplay.Proofs.Run.Conduct

/-!
# What a step can end in

A step fails only in ways of its own kind: a search because its template did not turn up, a wait for
a colour because it did not get it in time or its place is not on the screen, and a step that makes
no sense because it does not. No step fails because of a command, and none because of an export. The
main statement is `action_ends`.
-/

namespace Autoplay

variable {α β : Type}

/-! ## Parts that fail only by a stop -/

/-- A part of a step fails only because the run is to stop. -/
def OnlyStops (p : Play α) : Prop :=
  p.run.Yields fun r => ∀ e, r = .error e → e = .aborted

/-- What follows a part that fails only by a stop. -/
theorem OnlyStops.yields {P : Except StepError β → Prop} {p : Play α} {f : α → Play β}
    (hp : OnlyStops p) (hstop : P (.error .aborted)) (hf : ∀ a, (f a).run.Yields P) :
    (p >>= f).run.Yields P := by
  rw [Dialogue.run_bind_except]
  refine Dialogue.Yields.bind hp fun r hr => ?_
  cases r with
  | ok a => exact hf a
  | error e => exact hr e rfl ▸ hstop

/-- The same with what was asked and answered. -/
theorem OnlyStops.tells {P : Transcript → Except StepError β → Prop} {p : Play α} {f : α → Play β}
    (hp : OnlyStops p) (hstop : ∀ t, P t (.error .aborted))
    (hf : ∀ t a, p.run.Goes t (.ok (.ok a)) → (f a).run.Tells fun u r => P (t ++ u) r) :
    (p >>= f).run.Tells P :=
  Dialogue.tells_bind_except (fun t e he => Dialogue.Yields.of_goes hp he e rfl ▸ hstop t) hf

/-- Two parts, one after the other. -/
theorem OnlyStops.bind {p : Play α} {f : α → Play β} (hp : OnlyStops p)
    (hf : ∀ a, OnlyStops (f a)) : OnlyStops (p >>= f) :=
  hp.yields (fun _ he => (Except.error.inj he).symm) hf

/-- A result at once. -/
theorem onlyStops_pure (a : α) : OnlyStops (pure a : Play α) := nofun

/-- A part that breaks off at a stop. -/
theorem onlyStops_inPlay (x : Stoppable α) : OnlyStops (liftM x : Play α) := by
  refine (Dialogue.yields_true x.run).bind fun r _ => ?_
  cases r with
  | ok a => exact nofun
  | error e =>
    rintro e ⟨⟩
    rfl

/-- A part whose failure does not matter. -/
theorem onlyStops_attempt (p : Play α) : OnlyStops (Play.attempt p) := by
  -- Of the failures only a stop is passed on.
  refine (Dialogue.yields_true p.run).bind fun r _ => ?_
  split
  · rintro e ⟨⟩
    rfl
  · exact nofun

/-- What may fail goes as it does by itself; what it ends in is passed on as a result, but for a
stop. -/
theorem goes_attempt {p : Play α} {t : Transcript}
    {r : Except Breakdown (Except StepError (Except StepError α))}
    (h : (Play.attempt p).run.Goes t r) :
    (∃ o, p.run.Goes t (.ok o) ∧
      (r = .ok (.ok o) ∨ o = .error .aborted ∧ r = .ok (.error .aborted))) ∨
      ∃ b, p.run.Goes t (.error b) ∧ r = .error b := by
  rcases Dialogue.goes_bind.1 h with ⟨o, t₁, t₂, rfl, hp, hend⟩ | ⟨b, rfl, hp⟩
  · refine .inl ⟨o, ?_⟩
    split at hend
    all_goals
      obtain ⟨rfl, rfl⟩ := hend
      rw [List.append_nil]
    · exact ⟨hp, .inr ⟨rfl, rfl⟩⟩
    · exact ⟨hp, .inl rfl⟩
  · exact .inr ⟨b, hp, rfl⟩

/-- Taps one after the other. -/
theorem onlyStops_tapAll (ctx : Context) (gap : Bool) (ps : List Point) :
    OnlyStops (tapAll ctx gap ps) := by
  induction ps generalizing gap with
  | nil => exact onlyStops_inPlay _
  | cons p rest ih =>
    have htap : OnlyStops (do
        let _ ← Stoppable.order (.tap p.x p.y)
        tapAll ctx true rest : Play Unit) := (onlyStops_inPlay _).bind fun _ => ih true
    unfold tapAll
    split
    · exact (onlyStops_inPlay _).bind fun _ => htap
    · exact htap

/-- The looks of a search. -/
theorem onlyStops_search_look (s : TemplateSearch) (ctx : Context) (all : Bool)
    (limits : TemplateSearch.Limits) (rounds : Nat) (attempts : UInt32) :
    OnlyStops (s.look ctx all limits rounds attempts) := by
  induction rounds generalizing attempts with
  | zero => exact onlyStops_inPlay _
  | succ rounds ih =>
    have hagain (n : UInt32) : OnlyStops (do
        Stoppable.pause limits.interval
        s.look ctx all limits rounds n : Play _) := (onlyStops_inPlay _).bind fun _ => ih n
    unfold TemplateSearch.look
    refine (onlyStops_inPlay _).bind fun now => ?_
    dsimp only
    split
    · exact onlyStops_pure _
    split
    · exact onlyStops_pure _
    refine (onlyStops_attempt _).bind fun shot => ?_
    cases shot with
    | error e => exact hagain _
    | ok screen =>
      refine (onlyStops_inPlay _).bind fun found => ?_
      split
      · exact hagain _
      · exact (onlyStops_tapAll _ _ _).bind fun _ => onlyStops_pure _

/-- Looks that tap a template for as long as it turns up. -/
theorem onlyStops_loopClick_look (s : LoopClick) (ctx : Context) (looks misses : Nat) :
    OnlyStops (s.look ctx looks misses) := by
  induction looks generalizing misses with
  | zero => exact onlyStops_pure _
  | succ looks ih =>
    unfold LoopClick.look
    refine (onlyStops_attempt _).bind fun shot => ?_
    cases shot with
    | error e => exact (onlyStops_inPlay _).bind fun _ => ih _
    | ok screen =>
      refine (onlyStops_inPlay _).bind fun hit => ?_
      cases hit with
      | some p => exact (onlyStops_inPlay _).bind fun _ => (onlyStops_inPlay _).bind fun _ => ih _
      | none =>
        dsimp only
        split
        · exact onlyStops_pure _
        · exact (onlyStops_inPlay _).bind fun _ => ih _

/-- A pass of a group: the failure of a member does not matter. -/
theorem onlyStops_pass (ctx : Context) (members : List (Nat × Step)) :
    OnlyStops (RepeatGroup.pass ctx members) := by
  induction members with
  | nil => exact onlyStops_pure _
  | cons m rest ih =>
    refine (onlyStops_inPlay _).bind fun _ => (onlyStops_attempt _).bind fun r => ?_
    split
    · exact onlyStops_pure _
    · exact ih

/-- The look for the stop template. -/
theorem onlyStops_stopSeen (s : RepeatGroup) (ctx : Context) : OnlyStops (s.stopSeen ctx) := by
  unfold RepeatGroup.stopSeen
  split
  · exact onlyStops_pure _
  refine (onlyStops_attempt _).bind fun shot => ?_
  cases shot with
  | error e => exact onlyStops_pure _
  | ok screen => exact (onlyStops_inPlay _).bind fun _ => onlyStops_pure _

/-- The passes of a group. -/
theorem onlyStops_passes (s : RepeatGroup) (ctx : Context) (members : List (Nat × Step))
    (n : Nat) : OnlyStops (s.passes ctx members n) := by
  induction n with
  | zero => exact onlyStops_pure _
  | succ n ih =>
    unfold RepeatGroup.passes
    refine (onlyStops_inPlay _).bind fun _ => ?_
    refine (onlyStops_pass ctx members).bind fun hit => ?_
    split
    · exact onlyStops_pure _
    refine (onlyStops_stopSeen s ctx).bind fun seen => ?_
    split
    · exact onlyStops_pure _
    · exact ih

/-! ## Questions without a hit -/

/-- Whether a template was found. -/
def isHit : Exchange Request Request.Answer → Bool
  | ⟨.find .., .ok (some _)⟩ => true
  | ⟨.findAll .., .ok (_ :: _)⟩ => true
  | _ => false

/-- No template was found. -/
def Missed (t : Transcript) : Prop := ∀ x ∈ t, isHit x = false

/-- Where nothing was asked, none was found. -/
theorem missed_nil : Missed [] := List.forall_mem_nil _

/-- The same as a test. -/
theorem missed_iff {t : Transcript} : Missed t ↔ t.any isHit = false := by
  rw [List.any_eq_false]
  exact forall_congr' fun x => imp_congr_right fun _ => Bool.eq_false_iff

/-- One after the other. -/
theorem Missed.append {t u : Transcript} (ht : Missed t) (hu : Missed u) : Missed (t ++ u) :=
  List.forall_mem_append.2 ⟨ht, hu⟩

/-- A part never has exchanges of some kind. -/
def Blind (seen : Exchange Request Request.Answer → Bool) (d : Talk α) : Prop :=
  d.Asks fun q => ∀ a, seen ⟨q, a⟩ = false

/-- The transcript of such a part has no exchanges of that kind. -/
theorem Blind.unseen {seen : Exchange Request Request.Answer → Bool} {d : Talk α}
    (h : Blind seen d) {t : Transcript} {r : Except Breakdown α} (ht : d.Goes t r) :
    ∀ x ∈ t, seen x = false := fun x hx => Dialogue.Asks.of_goes h ht x hx x.2

/-- A wait asks only for the wait. -/
theorem blind_pause {seen : Exchange Request Request.Answer → Bool} (d : Duration)
    (hseen : ∀ told, seen ⟨.pause d, told⟩ = false) :
    Blind seen (liftM (Stoppable.pause d) : Play Unit).run := by
  have hwait : Blind seen (liftM
      (do if ← Talk.ask (.pause d) then throw ⟨⟩ : Stoppable Unit) : Play Unit).run := by
    refine ⟨hseen, fun told => ?_⟩
    cases told <;> exact trivial
  unfold Stoppable.pause
  split
  · exact trivial
  · exact hwait

/-- A screenshot that was attempted was taken after a check, or the device failed. -/
theorem goes_capture {t : Transcript} {shot : Except StepError Picture}
    (h : (Play.attempt Play.capture).run.Goes t (.ok (.ok shot))) :
    (∃ screen, shot = .ok screen ∧
      t = [⟨.stopRequested, false⟩, ⟨.command .screenshot, .ok screen⟩]) ∨
      ∃ e reason, shot = .error e ∧
        t = [⟨.stopRequested, false⟩, ⟨.command .screenshot, .error reason⟩] := by
  obtain ⟨told, rest, rfl, h⟩ := h
  cases told with
  | true => exact nomatch h.2
  | false =>
    obtain ⟨reply, rest, rfl, h⟩ := h
    cases reply with
    | ok screen =>
      obtain ⟨rfl, hshot⟩ := h
      cases hshot
      exact .inl ⟨screen, rfl, rfl⟩
    | error reason =>
      obtain ⟨rfl, hshot⟩ := h
      cases hshot
      exact .inr ⟨_, reason, rfl, rfl⟩

/-- A part of a step that never fails, and then the rest. -/
theorem run_play_bind (d : Talk α) (f : α → Play β) :
    (liftM d >>= f : Play β).run = d.bind fun b => (f b).run := by
  rw [Dialogue.run_bind_except]
  show Dialogue.bind (Dialogue.bind (Dialogue.bind d _) _) _ = _
  rw [Dialogue.bind_assoc, Dialogue.bind_assoc]
  rfl

/-- A part of a step that never fails goes as it does by itself. -/
theorem goes_play {d : Talk α} {t : Transcript} {a : α}
    (h : (liftM d : Play α).run.Goes t (.ok (.ok a))) : d.Goes t (.ok a) := by
  obtain ⟨r, t₁, t₂, rfl, h₁, h₂⟩ := Dialogue.goes_bind_ok.1 h
  obtain ⟨b, u₁, u₂, rfl, hd, rfl, hr⟩ := Dialogue.goes_bind_ok.1 h₁
  cases hr
  obtain ⟨rfl, ha⟩ := h₂
  cases ha
  rwa [List.append_nil, List.append_nil]

/-- A number of seconds is read without a question. -/
theorem goes_seconds {x : Float} {t : Transcript} {d : Duration}
    (h : (liftM (Talk.seconds x) : Play Duration).run.Goes t (.ok (.ok d))) :
    t = [] ∧ Duration.ofSeconds? x = some d := by
  have hseconds := goes_play h
  unfold Talk.seconds at hseconds
  split at hseconds
  next hx =>
    obtain ⟨rfl, hd⟩ := hseconds
    cases hd
    exact ⟨rfl, hx⟩
  next => exact nomatch hseconds.2

/-- A reading of the clock. -/
theorem goes_clock {t : Transcript} {now : Nat}
    (h : (liftM Talk.clock : Play Nat).run.Goes t (.ok (.ok now))) : t = [⟨.clock, now⟩] := by
  obtain ⟨now', rest, rfl, rfl, hnow⟩ := goes_play h
  cases hnow
  rfl

/-- The question for the best hit tells whether there is one. -/
theorem goes_locate {ctx : Context} {screen : Picture} {template : String} {threshold : Float32}
    {t : Transcript} {hit : Option Point}
    (h : (ctx.locate screen template threshold).Goes t (.ok hit)) : t.any isHit = hit.isSome := by
  obtain ⟨answer, rest, rfl, h⟩ := h
  cases answer with
  | error e =>
    obtain ⟨rfl, hhit⟩ := h
    cases hhit
    rfl
  | ok found =>
    obtain ⟨rfl, hhit⟩ := h
    cases hhit
    cases hit <;> rfl

/-- So does the question for all hits. -/
theorem goes_locateAll {ctx : Context} {screen : Picture} {template : String} {threshold : Float32}
    {t : Transcript} {hits : List Point}
    (h : (ctx.locateAll screen template threshold).Goes t (.ok hits)) :
    t.any isHit = !hits.isEmpty := by
  obtain ⟨answer, rest, rfl, h⟩ := h
  cases answer with
  | error e =>
    obtain ⟨rfl, hhits⟩ := h
    cases hhits
    rfl
  | ok found =>
    obtain ⟨rfl, hhits⟩ := h
    cases hhits
    cases hits <;> rfl

/-- Where there are no hits, no template was found. -/
theorem hits_missed (s : TemplateSearch) (ctx : Context) (all : Bool) (screen : Picture)
    {t : Transcript} (h : (s.hits ctx all screen).Goes t (.ok [])) : Missed t := by
  unfold TemplateSearch.hits at h
  split at h
  · exact missed_iff.2 (goes_locateAll h)
  · obtain ⟨hit, t₁, t₂, rfl, hlocate, rfl, hnone⟩ := Dialogue.goes_bind_ok.1 h
    cases hit with
    | none => rw [List.append_nil]; exact missed_iff.2 (goes_locate hlocate)
    | some p => cases hnone

/-- Whether a screenshot was asked for. -/
def isShot : Exchange Request Request.Answer → Bool
  | ⟨.command .screenshot, _⟩ => true
  | _ => false

/-- The number of screenshots that were asked for. -/
def shots (t : Transcript) : Nat := t.countP isShot

/-- No screenshot is asked for where there is none. -/
theorem shots_eq_zero {t : Transcript} (h : ∀ x ∈ t, isShot x = false) : shots t = 0 :=
  List.countP_eq_zero.2 fun x hx => by rw [h x hx]; exact Bool.false_ne_true

/-- The question for hits takes no screenshot. -/
theorem shots_hits (s : TemplateSearch) (ctx : Context) (all : Bool) (screen : Picture)
    {t : Transcript} {r : Except Breakdown (List Point)} (h : (s.hits ctx all screen).Goes t r) :
    shots t = 0 := by
  have hblind : Blind isShot (s.hits ctx all screen) := by
    unfold TemplateSearch.hits
    split
    all_goals exact ⟨fun _ => rfl, fun found => by cases found <;> exact trivial⟩
  exact shots_eq_zero (hblind.unseen h)

namespace TemplateSearch

/-- A search with a number of looks behind it found nothing until its time was up or its looks were
used up. -/
structure Limits.Reached (limits : Limits) (attempts : Nat) (t : Transcript) : Prop where
  /-- It found nothing. -/
  missed : Missed t
  /-- It came to a limit. -/
  spent : ∃ now, ⟨.clock, now⟩ ∈ t ∧ (limits.wait.nanos ≤ now - limits.started ∨
    ∃ most, limits.looks = some most ∧ most ≤ attempts + shots t)

/-- More looks behind it do not matter. -/
theorem Limits.Reached.mono {limits : Limits} {attempts attempts' : Nat} {t : Transcript}
    (h : limits.Reached attempts t) (hle : attempts ≤ attempts') : limits.Reached attempts' t := by
  obtain ⟨hmissed, now, hnow, hlimit⟩ := h
  refine ⟨hmissed, now, hnow, hlimit.imp_right fun ⟨most, hmost, hspent⟩ => ⟨most, hmost, ?_⟩⟩
  omega

/-- What happens before counts as well. -/
theorem Limits.Reached.prepend {limits : Limits} {attempts : Nat} {t u : Transcript}
    (ht : Missed t) (hu : limits.Reached (attempts + shots t) u) :
    limits.Reached attempts (t ++ u) := by
  obtain ⟨hmissed, now, hnow, hlimit⟩ := hu
  refine ⟨ht.append hmissed, now, List.mem_append_right _ hnow, hlimit.imp_right ?_⟩
  rintro ⟨most, hmost, hspent⟩
  refine ⟨most, hmost, ?_⟩
  rwa [shots, List.countP_append, ← Nat.add_assoc]

/-- One more look adds one to their count, unless it starts again at zero. -/
theorem toNat_succ_le (attempts : UInt32) : (attempts + 1).toNat ≤ attempts.toNat + 1 := by
  rw [UInt32.toNat_add]
  exact Nat.mod_le _ _

/-- A search that ends without a hit has come to a limit. -/
theorem look_reached (s : TemplateSearch) (ctx : Context) (all : Bool) (limits : Limits)
    (rounds : Nat) (attempts : UInt32) {t : Transcript} {n : UInt32}
    (h : (s.look ctx all limits rounds attempts).run.Goes t (.ok (.ok (some n)))) :
    limits.Reached attempts.toNat t := by
  induction rounds generalizing attempts t with
  | zero => exact nomatch h.2
  | succ rounds ih =>
    -- After a look in vain there is a wait, and then the search goes on with one more look.
    have hagain {t : Transcript} (before : Transcript) (hmissed : Missed before)
        (hshots : shots before = 0) (h : (do
          Stoppable.pause limits.interval
          s.look ctx all limits rounds (attempts + 1) : Play _).run.Goes t (.ok (.ok (some n)))) :
        limits.Reached (attempts.toNat + 1) (before ++ t) := by
      obtain ⟨_, t₁, t₂, rfl, hpause, hrest⟩ := Dialogue.goes_bind_except_ok.1 h
      refine .prepend hmissed ?_
      refine .prepend ((blind_pause _ fun _ => rfl).unseen hpause) ?_
      rw [hshots, shots_eq_zero ((blind_pause _ fun _ => rfl).unseen hpause)]
      exact (ih _ hrest).mono (toNat_succ_le attempts)
    unfold look at h
    obtain ⟨now, t₁, t₂, rfl, hclock, hlook⟩ := Dialogue.goes_bind_except_ok.1 h
    obtain rfl := goes_clock hclock
    have hread : Missed [⟨.clock, now⟩] := List.forall_mem_singleton.2 rfl
    clear h
    dsimp only at hlook
    split at hlook
    next hlate =>
      obtain ⟨rfl, -⟩ := hlook
      exact ⟨hread, now, List.mem_singleton.2 rfl, .inl hlate⟩
    split at hlook
    next hspent =>
      obtain ⟨rfl, -⟩ := hlook
      obtain ⟨most, hmost, hle⟩ := (Option.any_eq_true _ _).1 hspent
      exact ⟨hread, now, List.mem_singleton.2 rfl, .inr ⟨most, hmost, of_decide_eq_true hle⟩⟩
    next =>
      refine .prepend hread ?_
      obtain ⟨shot, u₁, u₂, rfl, hshot, hseen⟩ := Dialogue.goes_bind_except_ok.1 hlook
      obtain ⟨screen, rfl, rfl⟩ | ⟨e, reason, rfl, rfl⟩ := goes_capture hshot
      · refine .prepend (by simp [Missed, isHit]) ?_
        obtain ⟨found, v₁, v₂, rfl, hfound, hrest⟩ := Dialogue.goes_bind_except_ok.1 hseen
        cases found with
        | nil =>
          have hhits := goes_play hfound
          exact hagain v₁ (hits_missed s ctx all screen hhits) (shots_hits s ctx all screen hhits)
            hrest
        | cons p ps =>
          -- After taps the search has found its template.
          obtain ⟨_, w₁, w₂, -, -, -, hnone⟩ := Dialogue.goes_bind_except_ok.1 hrest
          cases hnone
      · exact .prepend (by simp [Missed, isHit]) (hagain [] missed_nil rfl hseen)

/-- Until its time was up or its looks were used up, a search found nothing. -/
def GaveUp (s : TemplateSearch) (talk : Transcript) : Prop :=
  Missed talk ∧ ∃ wait started looks now, Duration.ofSeconds? s.maxWaitSeconds = some wait ∧
    talk = ⟨.clock, started⟩ :: looks ∧ ⟨.clock, now⟩ ∈ looks ∧
    (wait.nanos ≤ now - started ∨ ∃ most, s.lookLimit = some most ∧ most ≤ shots looks)

end TemplateSearch

/-! ## The wait for a colour -/

/-- A place lies on a screen. -/
def OnScreen (screen : Picture) (x y : Int32) : Prop :=
  0 ≤ x.toInt ∧ x.toInt < screen.width ∧ 0 ≤ y.toInt ∧ y.toInt < screen.height

/-- A number that is not negative. -/
theorem not_lt_zero_of_toInt {x : Int32} (h : 0 ≤ x.toInt) : ¬ x < 0 := by
  rw [Int32.lt_iff_toInt_lt, Int32.toInt_zero]
  exact Int.not_lt.2 h

/-- Only a place off the screen has no colour. -/
theorem not_onScreen_of_colourless {screen : Picture} {x y : Int32}
    {bgr : UInt8 × UInt8 × UInt8} {tolerance : UInt32}
    (h : screen.hasColour? x y bgr tolerance = none) : ¬ OnScreen screen x y := by
  rintro ⟨hx, hwidth, hy, hheight⟩
  have hcell : x.toInt.toNat < screen.width ∧ y.toInt.toNat < screen.height := by omega
  unfold Raster.hasColour? Raster.at? at h
  rw [if_neg (by simp [not_lt_zero_of_toInt hx, not_lt_zero_of_toInt hy]), dif_pos hcell] at h
  exact nomatch h

namespace ColorWait

/-- Whether a screenshot shows the colour. -/
def shows (s : ColorWait) (bgr : UInt8 × UInt8 × UInt8) : Exchange Request Request.Answer → Bool
  | ⟨.command .screenshot, .ok screen⟩ => screen.hasColour? s.x s.y bgr s.tolerance == some true
  | _ => false

/-- The time was up before any screenshot showed the colour. -/
def TimedOut (s : ColorWait) (talk : Transcript) : Prop :=
  ∃ bgr wait started looks now, s.expectedBgr = some bgr ∧
    Duration.ofSeconds? s.maxWaitSeconds = some wait ∧
    talk = ⟨.clock, started⟩ :: looks ∧ ⟨.clock, now⟩ ∈ looks ∧ wait.nanos ≤ now - started ∧
    ∀ x ∈ talk, s.shows bgr x = false

/-- The last screenshot is too small for the place. -/
def OffScreen (s : ColorWait) (talk : Transcript) : Prop :=
  ∃ screen before, talk = before ++ [⟨.command .screenshot, .ok screen⟩] ∧
    ¬ OnScreen screen s.x s.y

/-- How the looks for a colour can end. -/
def LookEnds (s : ColorWait) (bgr : UInt8 × UInt8 × UInt8) (started : Nat) (wait : Duration)
    (t : Transcript) : Except StepError Bool → Prop
  | .ok true => True
  | .ok false => (∃ now, ⟨.clock, now⟩ ∈ t ∧ wait.nanos ≤ now - started) ∧
    ∀ x ∈ t, s.shows bgr x = false
  | .error .aborted => True
  | .error (.outOfBounds ..) => s.OffScreen t
  | .error _ => False

/-- Nothing that happens before a look spoils its end, unless it shows the colour. -/
theorem LookEnds.prepend {s : ColorWait} {bgr : UInt8 × UInt8 × UInt8} {started : Nat}
    {wait : Duration} {t u : Transcript} {r : Except StepError Bool}
    (ht : ∀ x ∈ t, s.shows bgr x = false) (hu : s.LookEnds bgr started wait u r) :
    s.LookEnds bgr started wait (t ++ u) r := by
  match r, hu with
  | .ok true, _ => exact trivial
  | .ok false, ⟨⟨now, hnow, hlate⟩, hshown⟩ =>
    exact ⟨⟨now, List.mem_append_right _ hnow, hlate⟩, List.forall_mem_append.2 ⟨ht, hshown⟩⟩
  | .error .aborted, _ => exact trivial
  | .error (.outOfBounds ..), ⟨screen, before, hlast, hoff⟩ =>
    exact ⟨screen, t ++ before, by rw [hlast, List.append_assoc], hoff⟩

/-- The looks for a colour end with the colour, in time or not, or with a place off the screen. -/
theorem look_ends (s : ColorWait) (bgr : UInt8 × UInt8 × UInt8) (started : Nat)
    (wait interval : Duration) (rounds : Nat) :
    (s.look bgr started wait interval rounds).run.Tells (s.LookEnds bgr started wait) := by
  induction rounds with
  | zero => exact fun t r h => nomatch h.2
  | succ rounds ih =>
    unfold look
    refine (onlyStops_inPlay _).tells (fun _ => trivial) fun t now hclock => ?_
    obtain rfl := goes_clock hclock
    dsimp only
    split
    next hlate =>
      -- The time is up before another screenshot is taken.
      rintro u r ⟨rfl, hr⟩
      cases hr
      exact ⟨⟨now, List.mem_singleton.2 rfl, hlate⟩, List.forall_mem_singleton.2 rfl⟩
    · refine (onlyStops_attempt _).tells (fun _ => trivial) fun t₁ shot hshot => ?_
      -- After a look in vain there is a wait, and then the looks go on as the hypothesis says.
      have hagain {before : Transcript} (hbefore : ∀ x ∈ before, s.shows bgr x = false) : (do
          Stoppable.pause interval
          s.look bgr started wait interval rounds : Play _).run.Tells fun u r =>
            s.LookEnds bgr started wait (⟨.clock, now⟩ :: (before ++ u)) r := by
        refine (onlyStops_inPlay _).tells (fun _ => trivial) fun t₂ _ hpause u r hu => ?_
        show s.LookEnds bgr started wait (⟨.clock, now⟩ :: (before ++ (t₂ ++ u))) r
        rw [← List.append_assoc]
        refine (ih u r hu).prepend (t := ⟨.clock, now⟩ :: (before ++ t₂)) ?_
        exact List.forall_mem_cons.2 ⟨rfl, List.forall_mem_append.2
          ⟨hbefore, (blind_pause _ fun _ => rfl).unseen hpause⟩⟩
      obtain ⟨screen, rfl, rfl⟩ | ⟨e, reason, rfl, rfl⟩ := goes_capture hshot
      · dsimp only
        split
        next hnone =>
          rintro u r ⟨rfl, hr⟩
          cases hr
          exact ⟨screen, [⟨.clock, now⟩, ⟨.stopRequested, false⟩], rfl,
            not_onScreen_of_colourless hnone⟩
        next => exact fun u r ⟨_, hr⟩ => by cases hr; exact trivial
        next hother => exact hagain (by simp [shows, hother])
      · exact hagain (by simp [shows])

end ColorWait

/-! ## Kinds of steps -/

/-- How an action can end: only a conditional step leads elsewhere, only a look at what was drawn
recognises a name, and each kind of failure belongs to certain kinds of steps and has its reason in
what was asked and answered. -/
def Action.CanEnd (a : Action) (talk : Transcript) : Except StepError Flow → Prop
  | .ok .next => True
  | .ok (.goto _) => ∃ s, a = .conditional s
  | .ok (.matched _) => ∃ s, a = .gachaCheck s
  | .error .aborted => True
  | .error (.misconfigured _) =>
    (∃ s, a = .conditional s) ∨ (∃ s, a = .repeatGroup s) ∨ (∃ s, a = .gachaCheck s) ∨
      ∃ s, a = .waitForColor s
  | .error (.templateNotFound ..) =>
    ∃ s, (a = .imageMatch s ∨ a = .findAllClick s) ∧ s.skipIfNotFound = false ∧ s.GaveUp talk
  | .error (.colorTimeout ..) => ∃ s, a = .waitForColor s ∧ s.TimedOut talk
  | .error (.outOfBounds ..) =>
    ∃ s, a = .waitForColor s ∧ s.expectedBgr.isSome = true ∧ s.OffScreen talk
  | .error (.deviceUnreachable _) => False
  | .error (.export _) => False

/-- An action ends as its kind can, for reasons other than what was asked and answered. -/
def Action.Ends (a : Action) (p : Play Flow) : Prop :=
  p.run.Yields fun r => ∀ talk, a.CanEnd talk r

/-- So it ends as its kind can. -/
theorem Action.Ends.tells {a : Action} {p : Play Flow} (h : a.Ends p) : p.run.Tells a.CanEnd :=
  fun t _ ht => h.of_goes ht t

/-- What follows a part that fails only by a stop. -/
theorem OnlyStops.ends {a : Action} {p : Play α} {f : α → Play Flow} (hp : OnlyStops p)
    (hf : ∀ b, a.Ends (f b)) : a.Ends (p >>= f) := hp.yields (fun _ => trivial) hf

/-- The next step follows. -/
theorem ends_next (a : Action) : a.Ends (pure .next) := fun _ => trivial

/-- A gesture. -/
theorem gesture_ends (a : Action) (c : Command) (settle : Float) : a.Ends (gesture c settle) :=
  (onlyStops_inPlay _).ends fun _ => (onlyStops_inPlay _).ends fun _ => ends_next a

/-- Closing the game and starting it again. -/
theorem restart_ends (a : Action) (s : App) (ctx : Context) : a.Ends (s.restart ctx) := by
  have hgesture (c : Command) (settle : Float) : OnlyStops (gesture c settle) :=
    (onlyStops_inPlay _).bind fun _ => (onlyStops_inPlay _).bind fun _ => onlyStops_pure _
  exact (hgesture _ _).ends fun _ => gesture_ends a _ _

/-- A conditional step. -/
theorem conditional_ends (s : Conditional) (ctx : Context) (index : Nat) :
    (Action.conditional s).Ends (s.play ctx index) := by
  unfold Conditional.play
  refine (onlyStops_attempt _).ends fun shot => ?_
  dsimp only
  cases shot
  case' ok screen => refine (onlyStops_inPlay _).ends fun hit => ?_
  all_goals
    refine (onlyStops_pure _).ends fun found => ?_
    split
    · exact (onlyStops_inPlay _).ends fun _ => ends_next _
    · split
      · exact (onlyStops_inPlay _).ends fun _ _ => ⟨s, rfl⟩
      · exact (onlyStops_inPlay _).ends fun _ _ => .inl ⟨s, rfl⟩

/-- A look at what was drawn. -/
theorem gachaCheck_ends (s : GachaCheck) (ctx : Context) :
    (Action.gachaCheck s).Ends (s.play ctx) := by
  have hmatched (name : String) : (Action.gachaCheck s).Ends (do
      Talk.note (.matched name)
      pure (.matched name)) := (onlyStops_inPlay _).ends fun _ _ => ⟨s, rfl⟩
  unfold GachaCheck.play
  dsimp only
  split
  · exact fun _ => .inr (.inr (.inl ⟨s, rfl⟩))
  refine (onlyStops_attempt _).ends fun shot => ?_
  cases shot with
  | error e => exact ends_next _
  | ok screen =>
    refine (onlyStops_inPlay _).ends fun text => ?_
    cases text with
    | none => exact ends_next _
    | some text =>
      dsimp only
      split
      · exact ends_next _
      split
      · exact (onlyStops_attempt _).ends fun _ => hmatched _
      · exact hmatched _

/-- The repetition of a group. -/
theorem repeatGroup_ends (s : RepeatGroup) (ctx : Context) :
    (Action.repeatGroup s).Ends (s.play ctx) := by
  unfold RepeatGroup.play
  dsimp only
  split
  · exact fun _ => .inr (.inl ⟨s, rfl⟩)
  split
  · exact fun _ => .inr (.inl ⟨s, rfl⟩)
  · exact (onlyStops_passes s ctx _ _).ends fun _ => ends_next _

/-- A search fails only if it may and nothing was found up to a limit. -/
theorem search_ends (a : Action) (s : TemplateSearch) (ctx : Context) (all : Bool)
    (ha : a = .imageMatch s ∨ a = .findAllClick s) : (s.play ctx all).run.Tells a.CanEnd := by
  refine (onlyStops_inPlay _).tells (fun _ => trivial) fun t₁ wait hwait => ?_
  refine (onlyStops_inPlay _).tells (fun _ => trivial) fun t₂ interval hinterval => ?_
  refine (onlyStops_inPlay _).tells (fun _ => trivial) fun t₃ started hstarted => ?_
  refine (onlyStops_search_look s ctx all _ _ _).tells (fun _ => trivial) fun t₄ found hlook => ?_
  cases found with
  | none => exact fun u r ⟨_, hr⟩ => by cases hr; exact trivial
  | some attempts =>
    dsimp only
    split
    · exact fun u r ⟨_, hr⟩ => by cases hr; exact trivial
    next hskip =>
      refine (onlyStops_inPlay _).tells (fun _ => trivial) fun t₅ now hnow u r ⟨hu, hr⟩ => ?_
      cases hr
      refine ⟨s, ha, Bool.eq_false_iff.2 hskip, ?_⟩
      -- Around the looks there is a reading of the clock before them and one after them.
      obtain ⟨rfl, hlimit⟩ := goes_seconds hwait
      obtain ⟨rfl, -⟩ := goes_seconds hinterval
      obtain rfl := goes_clock hstarted
      obtain rfl := goes_clock hnow
      subst hu
      have hread (n : Nat) : Missed [⟨.clock, n⟩] := List.forall_mem_singleton.2 rfl
      obtain ⟨hmissed, last, hlast, hspent⟩ := s.look_reached ctx all _ _ _ hlook
      refine ⟨(hread started).append (hmissed.append (hread now)), wait, started,
        t₄ ++ [⟨.clock, now⟩], last, hlimit, rfl, List.mem_append_left _ hlast, ?_⟩
      refine hspent.imp_right fun ⟨most, hmost, hle⟩ => ⟨most, hmost, ?_⟩
      rw [UInt32.toNat_zero, Nat.zero_add] at hle
      rw [shots, List.countP_append]
      exact Nat.le_add_right_of_le hle

/-- A wait for a colour fails only if the time is up or its place is not on the screen. -/
theorem colorWait_ends (s : ColorWait) (ctx : Context) :
    (s.play ctx).run.Tells (Action.waitForColor s).CanEnd := by
  unfold ColorWait.play
  split
  next =>
    rintro t r ⟨-, hr⟩
    cases hr
    exact .inr (.inr (.inr ⟨s, rfl⟩))
  next bgr hbgr =>
    refine (onlyStops_inPlay _).tells (fun _ => trivial) fun t₁ wait hwait => ?_
    refine (onlyStops_inPlay _).tells (fun _ => trivial) fun t₂ interval hinterval => ?_
    refine (onlyStops_inPlay _).tells (fun _ => trivial) fun t₃ started hstarted => ?_
    obtain ⟨rfl, hlimit⟩ := goes_seconds hwait
    obtain ⟨rfl, -⟩ := goes_seconds hinterval
    obtain rfl := goes_clock hstarted
    have hlook := s.look_ends bgr started wait interval ctx.rounds
    refine Dialogue.tells_bind_except (fun t e he => ?_) fun t inTime ht => ?_
    · -- The looks themselves fail only at a place off the screen.
      match e, hlook t _ he with
      | .aborted, _ => exact trivial
      | .outOfBounds .., ⟨screen, before, hlast, hoff⟩ =>
        subst hlast
        exact ⟨s, rfl, by rw [hbgr]; rfl, screen, ⟨.clock, started⟩ :: before, rfl, hoff⟩
    · cases inTime with
      | true => exact fun u r ⟨_, hr⟩ => by cases hr; exact trivial
      | false =>
        -- The time was up; the clock is read once more for the message.
        obtain ⟨⟨now, hnow, hlate⟩, hshown⟩ := hlook t _ ht
        refine (onlyStops_inPlay _).tells (fun _ => trivial) fun t' later hlater u r ⟨hu, hr⟩ => ?_
        cases hr
        obtain rfl := goes_clock hlater
        subst hu
        have hshown' : ∀ x ∈ t ++ [⟨.clock, later⟩], s.shows bgr x = false :=
          List.forall_mem_append.2 ⟨hshown, List.forall_mem_singleton.2 rfl⟩
        exact ⟨s, rfl, bgr, wait, started, t ++ [⟨.clock, later⟩], now, hbgr, hlimit, rfl,
          List.mem_append_left _ hnow, hlate, List.forall_mem_cons.2 ⟨rfl, hshown'⟩⟩

/-- An action ends as its kind can. -/
theorem action_ends (ctx : Context) (index : Nat) (a : Action) :
    (a.play ctx index).run.Tells a.CanEnd := by
  cases a with
  | click s => exact (gesture_ends _ _ _).tells
  | swipe s => exact (gesture_ends _ _ _).tells
  | wait s => exact Action.Ends.tells ((onlyStops_inPlay _).ends fun _ => ends_next _)
  | imageMatch s => exact search_ends _ s ctx _ (.inl rfl)
  | findAllClick s => exact search_ends _ s ctx _ (.inr rfl)
  | loopClick s =>
    exact Action.Ends.tells ((onlyStops_loopClick_look s ctx _ _).ends fun _ => ends_next _)
  | waitForColor s => exact colorWait_ends s ctx
  | pressBack => exact (gesture_ends _ _ _).tells
  | conditional s => exact (conditional_ends s ctx index).tells
  | startGame s => exact (ends_next _).tells
  | restartGame s => exact (restart_ends _ s ctx).tells
  | repeatGroup s => exact (repeatGroup_ends s ctx).tells
  | gachaCheck s => exact (gachaCheck_ends s ctx).tells

end Autoplay
