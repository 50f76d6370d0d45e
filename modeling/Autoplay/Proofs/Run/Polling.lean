import Autoplay.Proofs.Run.Unstopped

/-!
# The looks of a search

A search for a template takes one screenshot after the other and asks one question about each one
that succeeds. It goes on until a question has a hit, its looks are used up or its time is up before
the next one. The hits of the last question are tapped in their order, and without a hit nothing is
tapped. A search that is never told to stop is described by its looks in vain (`Vain`), what ended
them (`Polls`), and what the search came to (`Polled`). The number of its screenshots that a search
tells is counted in 32 bits; it is exact below `2^32`, and in any case if the looks are limited. The
main statement is `searches_poll`.
-/

namespace Autoplay

/-- A length of time other than zero stands for a positive number of seconds. -/
theorem Duration.positive_of_nanos {x : Float} {d : Duration} (h : ofSeconds? x = some d)
    (hd : d.nanos ≠ 0) : ∃ b, Decimal.ofFloat x = (false, .finite b) ∧ 0 < b.m := by
  unfold ofSeconds? at h
  split at h
  next b hb =>
    refine ⟨b, hb, Nat.pos_of_ne_zero fun hzero => hd ?_⟩
    rw [hzero, Nat.zero_mul, Decimal.roundHalfEven_zero] at h
    cases h
    rfl
  next =>
    cases h
    exact absurd rfl hd

namespace TemplateSearch

/-! ## Looks in vain -/

/-- A look at the screen. -/
structure Glance where
  /-- The reading of the clock before it. -/
  now : Nat
  /-- The screenshot and the question about it. -/
  talk : Transcript

/-- What is asked and answered in it. -/
def Glance.transcript (g : Glance) : Transcript := ⟨.clock, g.now⟩ :: g.talk

/-- Before a look, with a number of looks behind it, no limit is reached. -/
structure Limits.Open (limits : Limits) (looks now : Nat) : Prop where
  /-- The time is not up. -/
  early : now - limits.started < limits.wait.nanos
  /-- The looks are not used up. -/
  few : ∀ most, limits.looks = some most → looks < most

/-- A screenshot that fails has no hits; about any other one a question is asked, for the best hit
or for all, and has no hits if it fails. -/
inductive Sees (s : TemplateSearch) (ctx : Context) : Bool → Transcript → List Point → Prop where
  /-- The screenshot fails. -/
  | failed (all : Bool) (e : DeviceError) : Sees s ctx all [⟨.command .screenshot, .error e⟩] []
  /-- The question is for the best hit. -/
  | best (screen : Picture) (found : Except String (Option Point)) :
    Sees s ctx false [⟨.command .screenshot, .ok screen⟩,
      ⟨.find screen (ctx.settings.templatePath s.templatePath) s.threshold, found⟩]
      (found.toOption.getD none).toList
  /-- The question is for all hits. -/
  | every (screen : Picture) (found : Except String (List Point)) :
    Sees s ctx true [⟨.command .screenshot, .ok screen⟩,
      ⟨.findAll screen (ctx.settings.templatePath s.templatePath) s.threshold, found⟩]
      (found.toOption.getD [])

/-- Looks without a hit, each of them taken before a limit was reached. -/
inductive Vain (s : TemplateSearch) (ctx : Context) (all : Bool) (limits : Limits) :
    List Glance → Prop where
  /-- No look. -/
  | nil : Vain s ctx all limits []
  /-- One more look. -/
  | snoc {glances : List Glance} {g : Glance} (h : Vain s ctx all limits glances)
    (hopen : limits.Open glances.length g.now) (hsees : s.Sees ctx all g.talk []) :
    Vain s ctx all limits (glances ++ [g])

/-- The taps of some hits, in their order. -/
def taps (hits : List Point) : List Request := hits.map fun p => .command (.tap p.x p.y)

/-- How the looks of a search end, with a number of rounds that they may take. -/
inductive Polls (s : TemplateSearch) (ctx : Context) (all : Bool) (limits : Limits)
    (rounds : Nat) : Transcript → Except Breakdown (Except StepError (Option UInt32)) → Prop where
  /-- A look has hits, which are tapped. -/
  | found {glances : List Glance} {last : Glance} {hits : List Point} {tapping : Transcript}
    (hvain : s.Vain ctx all limits glances) (hopen : limits.Open glances.length last.now)
    (hsees : s.Sees ctx all last.talk hits) (hhits : hits ≠ [])
    (htaps : tapping.map Sigma.fst = taps hits) :
    Polls s ctx all limits rounds
      (glances.flatMap Glance.transcript ++ (last.transcript ++ tapping)) (.ok (.ok none))
  /-- The time is up or the looks are used up, and their number in 32 bits is the result. -/
  | gaveUp {glances : List Glance} {now : Nat} (hvain : s.Vain ctx all limits glances)
    (hlimit : limits.wait.nanos ≤ now - limits.started ∨ limits.looks = some glances.length) :
    Polls s ctx all limits rounds (glances.flatMap Glance.transcript ++ [⟨.clock, now⟩])
      (.ok (.ok (some (.ofNat glances.length))))
  /-- A wait between or after the taps is too long for any clock. -/
  | notTapped {glances : List Glance} {last : Glance} {hits : List Point} {tapping : Transcript}
    (hvain : s.Vain ctx all limits glances) (hopen : limits.Open glances.length last.now)
    (hsees : s.Sees ctx all last.talk hits) (hhits : hits ≠ [])
    (htaps : tapping.map Sigma.fst <+: taps hits)
    (hwait : ¬ Waitable ctx.settings.timing.clickSettle ∨
      ¬ Waitable ctx.settings.timing.findAllGap) :
    Polls s ctx all limits rounds
      (glances.flatMap Glance.transcript ++ (last.transcript ++ tapping)) (.error .overflow)
  /-- The wait after a look in vain is too long. -/
  | notWaited {glances : List Glance} (hvain : s.Vain ctx all limits glances)
    (hlooked : glances ≠ []) (hwait : Stoppable.longestPause ≤ limits.interval.nanos) :
    Polls s ctx all limits rounds (glances.flatMap Glance.transcript) (.error .overflow)
  /-- The rounds are used up before any limit is reached. -/
  | outOfRounds {glances : List Glance} (hvain : s.Vain ctx all limits glances)
    (hrounds : glances.length = rounds) :
    Polls s ctx all limits rounds (glances.flatMap Glance.transcript) (.error .outOfRounds)

/-- What a search comes to. -/
inductive Polled (s : TemplateSearch) (ctx : Context) (all : Bool) :
    Transcript → Except Breakdown (Except StepError Flow) → Prop where
  /-- One of its lengths of time is too long to be measured. -/
  | unmeasured (h : Duration.ofSeconds? s.maxWaitSeconds = none ∨
      Duration.ofSeconds? s.retryInterval = none) : Polled s ctx all [] (.error .overflow)
  /-- The template was found. -/
  | found {started : Nat} {wait interval : Duration} {t : Transcript}
    (hwait : Duration.ofSeconds? s.maxWaitSeconds = some wait)
    (hinterval : Duration.ofSeconds? s.retryInterval = some interval)
    (hpolls : s.Polls ctx all ⟨started, wait, interval, s.lookLimit⟩ ctx.rounds t
      (.ok (.ok none))) : Polled s ctx all (⟨.clock, started⟩ :: t) (.ok (.ok .next))
  /-- It was not found, which does not matter. -/
  | skipped {started : Nat} {attempts : UInt32} {wait interval : Duration} {t : Transcript}
    (hwait : Duration.ofSeconds? s.maxWaitSeconds = some wait)
    (hinterval : Duration.ofSeconds? s.retryInterval = some interval)
    (hpolls : s.Polls ctx all ⟨started, wait, interval, s.lookLimit⟩ ctx.rounds t
      (.ok (.ok (some attempts)))) (hskip : s.skipIfNotFound = true) :
    Polled s ctx all (⟨.clock, started⟩ :: t) (.ok (.ok .next))
  /-- It was not found, and the failure tells the number of looks. -/
  | notFound {started now : Nat} {attempts : UInt32} {wait interval : Duration} {t : Transcript}
    (hwait : Duration.ofSeconds? s.maxWaitSeconds = some wait)
    (hinterval : Duration.ofSeconds? s.retryInterval = some interval)
    (hpolls : s.Polls ctx all ⟨started, wait, interval, s.lookLimit⟩ ctx.rounds t
      (.ok (.ok (some attempts)))) (hskip : s.skipIfNotFound = false) :
    Polled s ctx all (⟨.clock, started⟩ :: (t ++ [⟨.clock, now⟩])) (.ok (.error (.templateNotFound
      (templateDisplayName s.templateName s.templatePath) attempts ⟨now - started⟩)))
  /-- Its looks break off. -/
  | broken {started : Nat} {wait interval : Duration} {t : Transcript} {b : Breakdown}
    (hwait : Duration.ofSeconds? s.maxWaitSeconds = some wait)
    (hinterval : Duration.ofSeconds? s.retryInterval = some interval)
    (hpolls : s.Polls ctx all ⟨started, wait, interval, s.lookLimit⟩ ctx.rounds t (.error b)) :
    Polled s ctx all (⟨.clock, started⟩ :: t) (.error b)

section

variable {s : TemplateSearch} {ctx : Context} {all : Bool} {limits : Limits} {looks : Nat}
  {t : Transcript}

/-! ## One look -/

/-- The question about a screenshot is asked once and tells the hits. -/
theorem hits_goes {screen : Picture} {r : Except Breakdown (List Point)}
    (h : (s.hits ctx all screen).Goes t r) :
    ∃ hits, r = .ok hits ∧ s.Sees ctx all (⟨.command .screenshot, .ok screen⟩ :: t) hits ∧
      asked t = t := by
  unfold hits at h
  cases all with
  | true =>
    obtain ⟨found, rest, rfl, h⟩ := h
    refine ⟨found.toOption.getD [], ?_⟩
    cases found <;> (obtain ⟨rfl, rfl⟩ := h; exact ⟨rfl, .every screen _, rfl⟩)
  | false =>
    obtain ⟨found, rest, rfl, h⟩ := h
    refine ⟨(found.toOption.getD none).toList, ?_⟩
    cases found <;> (obtain ⟨rfl, rfl⟩ := h; exact ⟨rfl, .best screen _, rfl⟩)

/-- A look takes one screenshot. -/
theorem Sees.shots {hits : List Point} (h : s.Sees ctx all t hits) : shots t = 1 := by
  cases h <;> rfl

/-- So looks take as many screenshots as they are. -/
theorem Vain.shots {glances : List Glance} (h : s.Vain ctx all limits glances) :
    Autoplay.shots (glances.flatMap Glance.transcript) = glances.length := by
  induction h with
  | nil => rfl
  | @snoc glances g _ _ hsees ih =>
    have hlook : List.countP isShot g.transcript = 1 := hsees.shots
    unfold Autoplay.shots at ih ⊢
    rw [List.flatMap_append, List.countP_append, ih, List.flatMap_singleton, hlook,
      List.length_append, List.length_singleton]

/-- A number that 32 bits can count. -/
def Limits.Countable (limits : Limits) (looks : Nat) : Prop :=
  ∀ most, limits.looks = some most → looks ≤ most ∧ most < UInt32.size

/-- As long as a limit of looks is not passed, it is compared with their true number. -/
theorem Limits.Countable.spent_iff (h : limits.Countable looks) :
    (limits.looks.any fun most => most ≤ (UInt32.ofNat looks).toNat) = true ↔
      limits.looks = some looks := by
  constructor
  · intro hspent
    obtain ⟨most, hmost, hle⟩ := (Option.any_eq_true _ _).1 hspent
    obtain ⟨hbefore, hsize⟩ := h most hmost
    have hcount : (UInt32.ofNat looks).toNat = looks :=
      UInt32.toNat_ofNat_of_lt' (Nat.lt_of_le_of_lt hbefore hsize)
    have hlast : most = looks := Nat.le_antisymm (hcount ▸ of_decide_eq_true hle) hbefore
    exact hlast ▸ hmost
  · intro hlast
    have hcount : (UInt32.ofNat looks).toNat = looks := UInt32.toNat_ofNat_of_lt' (h looks hlast).2
    rw [hlast, Option.any_some, hcount]
    exact decide_eq_true (Nat.le_refl looks)

/-- One look. The search gives up before it, or the look has hits, which are tapped, or there is a
wait after it, and the other looks follow. -/
theorem look_goes {rounds : Nat} (ht : Unstopped t) (hlooks : limits.Countable looks)
    {r : Except Breakdown (Except StepError (Option UInt32))}
    (h : (s.look ctx all limits (rounds + 1) (.ofNat looks)).run.Goes t r) :
    (∃ now, (limits.wait.nanos ≤ now - limits.started ∨ limits.looks = some looks) ∧
        asked t = [⟨.clock, now⟩] ∧ r = .ok (.ok (some (.ofNat looks)))) ∨
      ∃ (g : Glance) (hits : List Point) (u : Transcript), limits.Open looks g.now ∧
        s.Sees ctx all g.talk hits ∧ Unstopped u ∧ asked t = g.transcript ++ asked u ∧
        (hits ≠ [] ∧ (tapAll ctx false hits >>= fun _ => pure none : Play _).run.Goes u r ∨
          hits = [] ∧ (do
            Stoppable.pause limits.interval
            s.look ctx all limits rounds (.ofNat (looks + 1)) : Play _).run.Goes u r) := by
  obtain ⟨now, t₁, rfl, h₁⟩ := goes_ask h
  have ht₁ : Unstopped t₁ := (List.forall_mem_cons.1 ht).2
  dsimp only at h₁
  split at h₁
  next hlate =>
    obtain ⟨rfl, rfl⟩ := h₁
    exact .inl ⟨now, .inl hlate, rfl, rfl⟩
  split at h₁
  next hspent =>
    obtain ⟨rfl, rfl⟩ := h₁
    exact .inl ⟨now, .inr (hlooks.spent_iff.1 hspent), rfl, rfl⟩
  next hearly hunspent =>
    have hopen : limits.Open looks now := by
      refine ⟨Nat.lt_of_not_le hearly, fun most hmost => ?_⟩
      have hle : looks ≤ most := (hlooks most hmost).1
      have hne : looks ≠ most := fun hlast => hunspent (hlooks.spent_iff.2 (hlast ▸ hmost))
      omega
    rw [← UInt32.ofNat_one, ← UInt32.ofNat_add] at h₁
    refine .inr ?_
    obtain ⟨shot, t₂, ht₂, rfl, h₂⟩ := ht₁.play_capture h₁
    cases shot with
    | error e =>
      let g : Glance := ⟨now, [⟨.command .screenshot, .error e⟩]⟩
      exact ⟨g, [], t₂, hopen, .failed all e, ht₂, rfl, .inr ⟨rfl, h₂⟩⟩
    | ok screen =>
      rcases goes_talk h₂ with ⟨hits, t₃, t₄, rfl, hhits, h₃⟩ | ⟨b, -, hhits⟩
      · obtain ⟨_, ho, hsees, hasked⟩ := hits_goes hhits
        cases ho
        let g : Glance := ⟨now, ⟨.command .screenshot, .ok screen⟩ :: t₃⟩
        -- What remains when waits and checks are left out.
        have hwhole : asked (⟨.clock, now⟩ :: ⟨.stopRequested, false⟩ ::
            ⟨.command .screenshot, .ok screen⟩ :: (t₃ ++ t₄)) = g.transcript ++ asked t₄ := by
          show ⟨.clock, now⟩ :: ⟨.command .screenshot, .ok screen⟩ :: asked (t₃ ++ t₄) = _
          rw [asked_append, hasked]
          rfl
        refine ⟨g, hits, t₄, hopen, hsees, ht₂.of_append.2, hwhole, ?_⟩
        cases hits with
        | nil => exact .inr ⟨rfl, h₃⟩
        | cons p ps => exact .inl ⟨List.cons_ne_nil p ps, h₃⟩
      · obtain ⟨_, ho, -⟩ := hits_goes hhits
        exact nomatch ho

/-! ## All looks -/

/-- A look with hits is the last one. -/
theorem Vain.polls {rounds : Nat} {glances : List Glance} {g : Glance} {hits : List Point}
    (hvain : s.Vain ctx all limits glances) (hopen : limits.Open glances.length g.now)
    (hsees : s.Sees ctx all g.talk hits) (hhits : hits ≠ []) (ht : Unstopped t)
    {r : Except Breakdown (Except StepError (Option UInt32))}
    (h : (tapAll ctx false hits >>= fun _ => pure none : Play (Option UInt32)).run.Goes t r) :
    s.Polls ctx all limits rounds
      (glances.flatMap Glance.transcript ++ (g.transcript ++ asked t)) r := by
  rcases Dialogue.goes_bind_run.1 h with
    ⟨_, t₁, t₂, rfl, htaps, rfl, rfl⟩ | ⟨e, rfl, htaps⟩ | ⟨b, rfl, htaps⟩
  · rw [List.append_nil] at ht ⊢
    rcases tapAll_goes ht htaps with ⟨-, hgiven⟩ | ⟨ho, -⟩
    · exact .found hvain hopen hsees hhits hgiven
    · exact nomatch ho
  · rcases tapAll_goes ht htaps with ⟨ho, -⟩ | ⟨ho, -⟩ <;> exact nomatch ho
  · rcases tapAll_goes ht htaps with ⟨ho, -⟩ | ⟨ho, hwait, hgiven⟩
    · exact nomatch ho
    · cases ho
      exact .notTapped hvain hopen hsees hhits hgiven hwait

/-- Looks that follow others in vain. -/
theorem look_polls {rounds total : Nat} {before : List Glance}
    (hbefore : s.Vain ctx all limits before) (hrounds : before.length + rounds = total)
    (hlooks : limits.Countable before.length) (ht : Unstopped t)
    {r : Except Breakdown (Except StepError (Option UInt32))}
    (h : (s.look ctx all limits rounds (.ofNat before.length)).run.Goes t r) :
    s.Polls ctx all limits total (before.flatMap Glance.transcript ++ asked t) r := by
  -- What is counted are the looks before, which grow from look to look.
  induction rounds generalizing before t with
  | zero =>
    obtain ⟨rfl, rfl⟩ := h
    rw [asked, List.filter_nil, List.append_nil]
    exact .outOfRounds hbefore hrounds
  | succ rounds ih =>
    rcases look_goes ht hlooks h with
      ⟨now, hlimit, hasked, rfl⟩ | ⟨g, hits, u, hopen, hsees, hu, hasked, hrest⟩
    · rw [hasked]
      exact .gaveUp hbefore hlimit
    rw [hasked]
    rcases hrest with ⟨hhits, hrest⟩ | ⟨rfl, hrest⟩
    · exact hbefore.polls hopen hsees hhits hu hrest
    · -- After a look in vain there is a wait, and the others follow.
      have hvain : s.Vain ctx all limits (before ++ [g]) := hbefore.snoc hopen hsees
      have hlength : (before ++ [g]).length = before.length + 1 := List.length_append
      have hwhole : before.flatMap Glance.transcript ++ (g.transcript ++ asked u) =
          (before ++ [g]).flatMap Glance.transcript ++ asked u := by
        rw [List.flatMap_append, List.flatMap_singleton, List.append_assoc]
      rw [hwhole]
      rcases hu.play_pause hrest with ⟨hlong, rfl, rfl⟩ | ⟨v, hv, rfl, hlook⟩
      · rw [asked, List.filter_nil, List.append_nil]
        exact .notWaited hvain (by simp) hlong
      · rw [← hlength] at hlook
        have hlater : s.Polls ctx all limits total
            ((before ++ [g]).flatMap Glance.transcript ++ asked v) r := by
          refine ih hvain (by omega) (fun most hmost => ⟨?_, (hlooks most hmost).2⟩) hv hlook
          exact hlength ▸ hopen.few most hmost
        exact hlater

/-! ## The whole search -/

/-- Taps are no screenshots. -/
theorem shots_taps {tapping : Transcript} {hits : List Point}
    (h : tapping.map Sigma.fst <+: taps hits) : Autoplay.shots tapping = 0 := by
  refine shots_eq_zero fun x hx => ?_
  obtain ⟨p, -, hp⟩ := List.mem_map.1 (h.subset (List.mem_map_of_mem hx))
  obtain ⟨q, a⟩ := x
  cases hp
  rfl

/-- A number of screenshots that limits allow. -/
structure Limits.Allows (limits : Limits) (n : Nat) : Prop where
  /-- There are no more than there may be. -/
  few : ∀ most, limits.looks = some most → n ≤ most
  /-- There are none if there is no time. -/
  timely : n ≠ 0 → limits.wait.nanos ≠ 0

/-- One more look may be taken before a limit is reached. -/
theorem Limits.Open.allows {n now : Nat} (h : limits.Open n now) : limits.Allows (n + 1) where
  few := h.few
  timely := fun _ => Nat.ne_of_gt (Nat.zero_lt_of_lt h.early)

/-- Looks in vain are such a number. -/
theorem Vain.allows {glances : List Glance} (h : s.Vain ctx all limits glances) :
    limits.Allows glances.length := by
  cases h with
  | nil => exact ⟨fun most _ => Nat.zero_le most, fun h => absurd rfl h⟩
  | snoc h hopen hsees =>
    rw [List.length_append, List.length_singleton]
    exact hopen.allows

/-- The looks of a search take as many screenshots as the limits allow, and a search that gives up
tells how many, in 32 bits. -/
theorem Polls.shots {rounds : Nat} {r : Except Breakdown (Except StepError (Option UInt32))}
    (h : s.Polls ctx all limits rounds t r) : limits.Allows (Autoplay.shots t) ∧
      ∀ attempts, r = .ok (.ok (some attempts)) → attempts = .ofNat (Autoplay.shots t) := by
  -- With a last look that has hits there is one screenshot more than in vain.
  have hone {glances : List Glance} {last : Glance} {hits : List Point} {tapping : Transcript}
      (hvain : s.Vain ctx all limits glances) (hopen : limits.Open glances.length last.now)
      (hsees : s.Sees ctx all last.talk hits) (htaps : tapping.map Sigma.fst <+: taps hits) :
      limits.Allows (Autoplay.shots
        (glances.flatMap Glance.transcript ++ (last.transcript ++ tapping))) := by
    have hlook : Autoplay.shots last.transcript = 1 := hsees.shots
    have hlooks := hvain.shots
    have htapping := shots_taps htaps
    unfold Autoplay.shots at hlook hlooks htapping ⊢
    rw [List.countP_append, List.countP_append, hlooks, hlook, htapping]
    exact hopen.allows
  cases h with
  | found hvain hopen hsees hhits htaps =>
    exact ⟨hone hvain hopen hsees (htaps ▸ List.prefix_rfl), nofun⟩
  | notTapped hvain hopen hsees hhits htaps hwait =>
    exact ⟨hone hvain hopen hsees htaps, nofun⟩
  | @gaveUp glances now hvain hlimit =>
    have hlooks : Autoplay.shots (glances.flatMap Glance.transcript ++ [⟨.clock, now⟩]) =
        glances.length := List.countP_append.trans hvain.shots
    rw [hlooks]
    refine ⟨hvain.allows, ?_⟩
    rintro _ ⟨⟩
    rfl
  | notWaited hvain hlooked hwait => exact ⟨hvain.shots ▸ hvain.allows, nofun⟩
  | outOfRounds hvain hrounds => exact ⟨hvain.shots ▸ hvain.allows, nofun⟩

/-- A limit of looks is one that 32 bits hold. -/
theorem lookLimit_lt {most : Nat} (h : s.lookLimit = some most) : most < UInt32.size := by
  obtain ⟨n, -, rfl⟩ := Option.map_eq_some_iff.1 h
  exact n.toNat_lt_size

/-- A search comes to what its looks come to. -/
theorem play_polled (ht : Unstopped t) {r : Except Breakdown (Except StepError Flow)}
    (h : (s.play ctx all).run.Goes t r) : s.Polled ctx all (asked t) r := by
  unfold play at h
  rcases goes_seconds_bind h with ⟨hwait, rfl, rfl⟩ | ⟨wait, hwait, h₁⟩
  · exact .unmeasured (.inl hwait)
  rcases goes_seconds_bind h₁ with ⟨hinterval, rfl, rfl⟩ | ⟨interval, hinterval, h₂⟩
  · exact .unmeasured (.inr hinterval)
  obtain ⟨started, u, rfl, h₃⟩ := goes_ask h₂
  have hu : Unstopped u := (List.forall_mem_cons.1 ht).2
  -- No look was taken before the first one.
  have hpolls {v : Transcript} {o : Except Breakdown (Except StepError (Option UInt32))}
      (hv : Unstopped v)
      (hlook : (s.look ctx all ⟨started, wait, interval, s.lookLimit⟩ ctx.rounds 0).run.Goes v o) :
      s.Polls ctx all ⟨started, wait, interval, s.lookLimit⟩ ctx.rounds
        (List.flatMap Glance.transcript [] ++ asked v) o :=
    look_polls .nil (Nat.zero_add _)
      (fun most hmost => ⟨Nat.zero_le most, lookLimit_lt hmost⟩) hv hlook
  show s.Polled ctx all (⟨.clock, started⟩ :: asked u) r
  rcases Dialogue.goes_bind_run.1 h₃ with
    ⟨found, u₁, u₂, rfl, hlook, hend⟩ | ⟨e, -, hlook⟩ | ⟨b, rfl, hlook⟩
  · have hlooks := hpolls hu.of_append.1 hlook
    rw [asked_append]
    cases found with
    | none =>
      obtain ⟨rfl, rfl⟩ := hend
      rw [asked, asked, List.filter_nil, List.append_nil]
      exact .found hwait hinterval hlooks
    | some attempts =>
      dsimp only at hend
      split at hend
      next hskip =>
        obtain ⟨rfl, rfl⟩ := hend
        rw [asked, asked, List.filter_nil, List.append_nil]
        exact .skipped hwait hinterval hlooks hskip
      next hskip =>
        obtain ⟨now, u₃, rfl, rfl, rfl⟩ := goes_ask hend
        exact .notFound hwait hinterval hlooks (Bool.eq_false_iff.2 hskip)
  · have hlooks := hpolls hu hlook
    generalize asked u = v at hlooks
    exact nomatch hlooks
  · exact .broken hwait hinterval (hpolls hu hlook)

end

/-! ## What a search counts -/

/-- A limit of looks is one that is given and not zero. -/
theorem lookLimit_eq_some {s : TemplateSearch} {n : UInt32} (h : s.maxRetries = some n)
    (hn : n ≠ 0) : s.lookLimit = some n.toNat := by
  unfold lookLimit
  rw [h, Option.filter_some, if_pos (bne_iff_ne.2 hn), Option.map_some]

/-- Looks differ only by their question. -/
theorem look_congr {s s' : TemplateSearch} {ctx : Context} {all : Bool}
    (h : s.hits ctx all = s'.hits ctx all) (limits : Limits) (rounds : Nat) (attempts : UInt32) :
    s.look ctx all limits rounds attempts = s'.look ctx all limits rounds attempts := by
  induction rounds generalizing attempts with
  | zero => rfl
  | succ rounds ih =>
    unfold look
    rw [h, ih]

/-- A limit of zero looks is no limit. -/
theorem play_no_limit (s : TemplateSearch) (ctx : Context) (all : Bool) :
    { s with maxRetries := none }.play ctx all = { s with maxRetries := some 0 }.play ctx all := by
  have hhits : { s with maxRetries := none }.hits ctx all =
      { s with maxRetries := some 0 }.hits ctx all := rfl
  have hlook (limits : Limits) := look_congr hhits limits ctx.rounds 0
  unfold play
  simp only [hlook]
  rfl

/-- A search, by what is asked and answered but for checks and waits, and its result. -/
structure Searches (s : TemplateSearch) (ctx : Context) (all : Bool) (t : Transcript)
    (r : Except Breakdown (Except StepError Flow)) : Prop where
  /-- It looks until it finds its template or a limit is reached. -/
  polled : s.Polled ctx all t r
  /-- It takes no more screenshots than the limit, if there is one other than zero. -/
  few : ∀ n, s.maxRetries = some n → n ≠ 0 → shots t ≤ n.toNat
  /-- It takes none unless it is given a positive number of seconds. -/
  timely : shots t ≠ 0 → ∃ b, Decimal.ofFloat s.maxWaitSeconds = (false, .finite b) ∧ 0 < b.m
  /-- If it fails, it tells how many it took: it counts them in 32 bits, which gives their true
  number below `2^32`, and in any case if there is a limit other than zero. -/
  told : ∀ name attempts waited, r = .ok (.error (.templateNotFound name attempts waited)) →
    attempts = UInt32.ofNat (shots t) ∧ (shots t < UInt32.size → attempts.toNat = shots t) ∧
      ∀ n, s.maxRetries = some n → n ≠ 0 → attempts.toNat = shots t

/-- What a search comes to agrees with the number of its screenshots. -/
theorem Polled.searches {s : TemplateSearch} {ctx : Context} {all : Bool} {t : Transcript}
    {r : Except Breakdown (Except StepError Flow)} (h : s.Polled ctx all t r) :
    s.Searches ctx all t r := by
  have hlimits {started : Nat} {wait interval : Duration} {n : Nat}
      (hwait : Duration.ofSeconds? s.maxWaitSeconds = some wait)
      (hallows : Limits.Allows ⟨started, wait, interval, s.lookLimit⟩ n) :
      (∀ most, s.maxRetries = some most → most ≠ 0 → n ≤ most.toNat) ∧
        (n ≠ 0 → ∃ b, Decimal.ofFloat s.maxWaitSeconds = (false, .finite b) ∧ 0 < b.m) :=
    ⟨fun most hmost hne => hallows.few _ (lookLimit_eq_some hmost hne),
      fun hn => Duration.positive_of_nanos hwait (hallows.timely hn)⟩
  -- Readings of the clock are no screenshots.
  have hends (started now : Nat) (t : Transcript) :
      shots (⟨.clock, started⟩ :: (t ++ [⟨.clock, now⟩])) = shots t := List.countP_append
  cases h with
  | unmeasured hnone => exact ⟨.unmeasured hnone, fun _ _ _ => Nat.zero_le _, absurd rfl, nofun⟩
  | found hwait hinterval hpolls =>
    obtain ⟨hfew, htimely⟩ := hlimits hwait hpolls.shots.1
    exact ⟨.found hwait hinterval hpolls, hfew, htimely, nofun⟩
  | skipped hwait hinterval hpolls hskip =>
    obtain ⟨hfew, htimely⟩ := hlimits hwait hpolls.shots.1
    exact ⟨.skipped hwait hinterval hpolls hskip, hfew, htimely, nofun⟩
  | @notFound _ _ attempts _ _ looks hwait hinterval hpolls hskip =>
    obtain ⟨hfew, htimely⟩ := hlimits hwait hpolls.shots.1
    refine ⟨.notFound hwait hinterval hpolls hskip, ?_, ?_, ?_⟩ <;> rw [hends]
    · exact hfew
    · exact htimely
    · rintro _ _ _ ⟨⟩
      have hcount : attempts = UInt32.ofNat (shots looks) := hpolls.shots.2 _ rfl
      have hexact (hlt : shots looks < UInt32.size) : attempts.toNat = shots looks := by
        rw [hcount]
        exact UInt32.toNat_ofNat_of_lt' hlt
      refine ⟨hcount, hexact, fun n hn hne => hexact ?_⟩
      exact Nat.lt_of_le_of_lt (hfew n hn hne) n.toNat_lt
  | broken hwait hinterval hpolls =>
    obtain ⟨hfew, htimely⟩ := hlimits hwait hpolls.shots.1
    exact ⟨.broken hwait hinterval hpolls, hfew, htimely, nofun⟩

end TemplateSearch

end Autoplay
