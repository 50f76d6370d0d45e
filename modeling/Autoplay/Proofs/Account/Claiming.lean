import Autoplay.Proofs.Account.Phases

/-!
# The looks of the claim routine

The claim routine takes one screenshot after the other. About one that succeeds it asks for the
buttons of the settings in their order, up to the first one that is found, which is tapped. It ends
after the look with which enough looks in a row were in vain, or with the last look that it may
take; a screenshot that fails neither counts as in vain nor interrupts the row. The main statement
is `claimRewards_looks`.
-/

namespace Autoplay

/-! ## What comes of looks -/

/-- What comes of a look of the claim routine. -/
inductive Scan where
  /-- The screenshot failed. -/
  | failed
  /-- No button was found. -/
  | missed
  /-- A button was found. -/
  | hit
deriving DecidableEq

namespace Scan

/-- The number of looks in vain since the last hit. -/
def misses (scans : List Scan) : Nat := (scans.reverse.takeWhile (· ≠ hit)).count missed

/-- The same with one more look. -/
def missesAfter (misses : Nat) : Scan → Nat
  | .failed => misses
  | .missed => misses + 1
  | .hit => 0

/-- The looks and taps that are counted, with one more look. -/
def counted (summary : ClaimSummary) : Scan → ClaimSummary
  | .hit => ⟨summary.iterations + 1, summary.taps + 1⟩
  | _ => ⟨summary.iterations + 1, summary.taps⟩

variable (scans : List Scan) (scan : Scan)

/-- A screenshot that failed makes no difference, a look in vain counts, and a hit starts over. -/
theorem misses_concat : misses (scans ++ [scan]) = scan.missesAfter (misses scans) := by
  cases scan <;> simp [misses, missesAfter]

/-- Each look is counted, and a hit as a tap. -/
theorem counted_concat : scan.counted ⟨scans.length, scans.count .hit⟩ =
    ⟨(scans ++ [scan]).length, (scans ++ [scan]).count .hit⟩ := by
  cases scan <;> simp [counted]

end Scan

/-- Whether a tap was asked for. -/
def isTap : Exchange Request Request.Answer → Bool
  | ⟨.command (.tap ..), _⟩ => true
  | _ => false

namespace Settings

variable (s : Settings)

/-- A question for a button, with its answer. -/
def seeking (screen : Picture) (b : ClaimButton) (a : Except String (Option Point)) :
    Exchange Request Request.Answer :=
  ⟨.find screen (s.templatePath b.template) s.templates.builtinThreshold, a⟩

/-- Some buttons are asked for in their order, and none is found; a question that fails finds
none. -/
def Unfound (screen : Picture) : List ClaimButton → Transcript → Prop :=
  List.Forall₂ fun b x => ∃ a, x = s.seeking screen b a ∧ ∀ p, a ≠ .ok (some p)

/-- What shows of a look, and what comes of it. -/
inductive Scanned : Scan → Transcript → Prop where
  /-- The screenshot fails. -/
  | failed (e : DeviceError) : Scanned .failed [⟨.command .screenshot, .error e⟩]
  /-- All buttons are asked for, and none is found. -/
  | missed {screen : Picture} {t : Transcript}
    (hbuttons : s.Unfound screen s.templates.claimButtons t) :
    Scanned .missed (⟨.command .screenshot, .ok screen⟩ :: t)
  /-- The buttons are asked for up to the first one that is found, which is tapped. -/
  | hit {screen : Picture} {before after : List ClaimButton} {b : ClaimButton} {p : Point}
    {t : Transcript} {tapped : Except DeviceError Unit}
    (hbuttons : s.templates.claimButtons = before ++ b :: after)
    (hbefore : s.Unfound screen before t) :
    Scanned .hit (⟨.command .screenshot, .ok screen⟩ ::
      (t ++ [s.seeking screen b (.ok (some p)), ⟨.command (.tap p.x p.y), tapped⟩]))

/-- Enough looks were taken: as many as there may be, or enough in vain since the last hit. -/
def Enough (scans : List Scan) : Prop :=
  scans.length = s.claim.maxIterations.toNat ∨ max s.claim.missLimit.toNat 1 ≤ Scan.misses scans

/-- The looks of a claim routine, by what shows of it and its result. -/
structure Claims (t : Transcript) (r : Except Breakdown (Except Stopped ClaimSummary))
    (scans : List Scan) : Prop where
  /-- It consists of its looks. -/
  looks : ∃ talks, List.Forall₂ s.Scanned scans talks ∧ t = talks.flatten
  /-- It goes on until enough looks were taken. -/
  continues : ∀ n < scans.length, ¬ s.Enough (scans.take n)
  /-- Then it returns the numbers of its looks and of its hits, unless one of its waits is too long
  for any clock. -/
  ends : s.Enough scans ∧ r = .ok (.ok ⟨scans.length, scans.count .hit⟩) ∨
    r = .error .overflow ∧ ∃ x ∈ s.claimWaits, ¬ Waitable x

section

variable {s} {t : Transcript}

/-! ## One look -/

/-- Questions for buttons are no screenshots and no taps. -/
theorem Unfound.uncounted {screen : Picture} {buttons : List ClaimButton}
    (h : s.Unfound screen buttons t) : shots t = 0 ∧ t.countP isTap = 0 := by
  induction h with
  | nil => exact ⟨rfl, rfl⟩
  | cons hx _ ih =>
    obtain ⟨a, rfl, -⟩ := hx
    exact ih

/-- Questions for buttons show. -/
theorem Unfound.shown_eq {screen : Picture} {buttons : List ClaimButton}
    (h : s.Unfound screen buttons t) : shown t = t := by
  induction h with
  | nil => rfl
  | @cons b x buttons t hx _ ih =>
    obtain ⟨a, rfl, -⟩ := hx
    exact congrArg (s.seeking screen b a :: ·) ih

/-- A look takes one screenshot, and taps once if it is a hit. -/
theorem Scanned.counts {scan : Scan} (h : s.Scanned scan t) :
    shots t = 1 ∧ t.countP isTap = [scan].count .hit := by
  cases h with
  | failed e => exact ⟨rfl, rfl⟩
  | missed hbuttons =>
    obtain ⟨hshots, htaps⟩ := hbuttons.uncounted
    unfold shots at hshots ⊢
    rw [List.countP_cons, List.countP_cons, hshots, htaps]
    exact ⟨rfl, rfl⟩
  | hit hbuttons hbefore =>
    obtain ⟨hshots, htaps⟩ := hbefore.uncounted
    unfold shots at hshots ⊢
    rw [List.countP_cons, List.countP_cons, List.countP_append, List.countP_append, hshots, htaps]
    exact ⟨rfl, rfl⟩

/-- Looks take one screenshot each, and tap as often as they are hits. -/
theorem counts_of_scanned {scans : List Scan} {talks : List Transcript}
    (h : List.Forall₂ s.Scanned scans talks) :
    shots talks.flatten = scans.length ∧ talks.flatten.countP isTap = scans.count .hit := by
  induction h with
  | nil => exact ⟨rfl, rfl⟩
  | @cons scan talk scans talks hscan _ ih =>
    obtain ⟨hshots, htaps⟩ := hscan.counts
    unfold shots at hshots ih ⊢
    rw [List.flatten_cons, List.countP_append, List.countP_append, hshots, htaps, ih.1, ih.2,
      List.length_cons, ← List.count_append]
    exact ⟨Nat.add_comm _ _, rfl⟩

/-- A question for a button is asked once and tells whether the button is there. -/
theorem locateBuiltin_goes {screen : Picture} {b : ClaimButton}
    {r : Except Breakdown (Option Point)} (h : (s.locateBuiltin screen b.template).Goes t r) :
    ∃ a, t = [s.seeking screen b a] ∧ r = .ok (a.toOption.getD none) := by
  obtain ⟨a, rest, rfl, h⟩ := h
  refine ⟨a, ?_⟩
  cases a <;> (obtain ⟨rfl, rfl⟩ := h; exact ⟨rfl, rfl⟩)

/-- Buttons are asked for up to the first one that is found. -/
theorem firstButton_goes {screen : Picture} {buttons : List ClaimButton}
    {r : Except Breakdown (Option (ClaimButton × Point))}
    (h : (s.firstButton screen buttons).Goes t r) :
    (s.Unfound screen buttons t ∧ r = .ok none) ∨
      ∃ before b after p u, buttons = before ++ b :: after ∧ s.Unfound screen before u ∧
        t = u ++ [s.seeking screen b (.ok (some p))] ∧ r = .ok (some (b, p)) := by
  induction buttons generalizing t with
  | nil =>
    obtain ⟨rfl, rfl⟩ := h
    exact .inl ⟨.nil, rfl⟩
  | cons b rest ih =>
    rcases Dialogue.goes_bind.1 h with ⟨hit, t₁, t₂, rfl, h₁, h₂⟩ | ⟨_, -, h₁⟩
    · obtain ⟨a, rfl, ha⟩ := locateBuiltin_goes h₁
      cases ha
      have hmissed (hnone : ∀ p, a ≠ .ok (some p)) {u : Transcript} {buttons : List ClaimButton}
          (hu : s.Unfound screen buttons u) : s.Unfound screen (b :: buttons)
            (s.seeking screen b a :: u) := .cons ⟨a, rfl, hnone⟩ hu
      match a, h₂, hmissed with
      | .ok (some p), h₂, _ =>
        obtain ⟨rfl, rfl⟩ := h₂
        exact .inr ⟨[], b, rest, p, [], rfl, .nil, rfl, rfl⟩
      | .ok none, h₂, hmissed | .error _, h₂, hmissed =>
        rcases ih h₂ with ⟨hrest, rfl⟩ | ⟨before, b', after, p, u, rfl, hu, rfl, rfl⟩
        · exact .inl ⟨hmissed nofun hrest, rfl⟩
        · exact .inr ⟨b :: before, b', after, p, _, rfl, hmissed nofun hu, rfl, rfl⟩
    · obtain ⟨a, -, ha⟩ := locateBuiltin_goes h₁
      exact nomatch ha

/-! ## All looks -/

/-- The rest of a claim routine after some looks, by what shows of it, its result and all looks. -/
structure ClaimsOn (s : Settings) (before : List Scan) (t : Transcript)
    (r : Except Breakdown (Except Stopped ClaimSummary)) (scans : List Scan) : Prop where
  /-- It consists of the other looks. -/
  looks : ∃ later talks, scans = before ++ later ∧ List.Forall₂ s.Scanned later talks ∧
    t = talks.flatten
  /-- There are no more than there may be. -/
  few : scans.length ≤ s.claim.maxIterations.toNat
  /-- Before the last look, there were not enough in vain. -/
  continues : ∀ earlier, earlier <+: scans → earlier ≠ scans →
    Scan.misses earlier < max s.claim.missLimit.toNat 1
  /-- Enough looks were taken and are counted in the result, or a wait is too long. -/
  ends : s.Enough scans ∧ r = .ok (.ok ⟨scans.length, scans.count .hit⟩) ∨
    r = .error .overflow ∧ ∃ x ∈ s.claimWaits, ¬ Waitable x

section

variable {before scans : List Scan} {scan : Scan} {talk : Transcript}
  {r : Except Breakdown (Except Stopped ClaimSummary)}

/-- A look comes before the rest. -/
theorem ClaimsOn.prepend (hscan : s.Scanned scan talk)
    (h : s.ClaimsOn (before ++ [scan]) t r scans) : s.ClaimsOn before (talk ++ t) r scans where
  looks := by
    obtain ⟨later, talks, rfl, htalks, rfl⟩ := h.looks
    exact ⟨scan :: later, talk :: talks, List.append_assoc _ _ _, .cons hscan htalks, rfl⟩
  few := h.few
  continues := h.continues
  ends := h.ends

/-- A look is the last one. -/
theorem ClaimsOn.last (hscan : s.Scanned scan talk)
    (hfew : before.length < s.claim.maxIterations.toNat)
    (hbefore : ∀ earlier, earlier <+: before → Scan.misses earlier < max s.claim.missLimit.toNat 1)
    (hends : s.Enough (before ++ [scan]) ∧
        r = .ok (.ok ⟨(before ++ [scan]).length, (before ++ [scan]).count .hit⟩) ∨
      r = .error .overflow ∧ ∃ x ∈ s.claimWaits, ¬ Waitable x) :
    s.ClaimsOn before talk r (before ++ [scan]) where
  looks := ⟨[scan], [talk], rfl, .cons hscan .nil, (List.append_nil talk).symm⟩
  few := by
    rw [List.length_append]
    exact hfew
  continues := fun earlier hearlier hne =>
    hbefore earlier ((List.prefix_concat_iff.1 hearlier).resolve_left hne)
  ends := hends

/-- One look. It is the last one if enough were in vain with it; otherwise there is a wait, and the
other looks follow. -/
theorem claimLook_goes {looks misses : Nat} {summary : ClaimSummary} (ht : Unstopped t)
    (h : (s.claimLooks (looks + 1) summary misses).run.Goes t r) :
    ∃ scan talk, s.Scanned scan talk ∧
      (scan = .missed ∧ s.claim.missLimit.toNat ≤ misses + 1 ∧ shown t = talk ∧
          r = .ok (.ok (scan.counted summary)) ∨
        (scan = .missed → misses + 1 < s.claim.missLimit.toNat) ∧
          ∃ x ∈ s.claimWaits, ∃ u, Unstopped u ∧ shown t = talk ++ shown u ∧
            (do
              Stoppable.pauseSeconds x
              s.claimLooks looks (scan.counted summary)
                (scan.missesAfter misses) : Stoppable _).run.Goes u r) := by
  obtain ⟨t₁, ht₁, hshown, h₁⟩ := ht.checkpoint h
  obtain ⟨shot, t₂, rfl, h₂⟩ := h₁
  have ht₂ : Unstopped t₂ := (List.forall_mem_cons.1 ht₁).2
  cases shot with
  | error e =>
    exact ⟨.failed, _, .failed e, .inr ⟨nofun, _, List.mem_cons_self, t₂, ht₂, hshown, h₂⟩⟩
  | ok screen =>
    let shot : Exchange Request Request.Answer := ⟨.command .screenshot, .ok screen⟩
    rcases goes_lift h₂ with ⟨found, asked, t₃, rfl, hfound, h₃⟩ | ⟨b, -, hbroken⟩
    · have ht₃ : Unstopped t₃ := ht₂.of_append.2
      have hshown' : shown t = shot :: (shown asked ++ shown t₃) :=
        hshown.trans (congrArg (shot :: ·) (shown_append asked t₃))
      rcases firstButton_goes hfound with
        ⟨hbuttons, ho⟩ | ⟨before, b, after, p, asked', hbuttons, hbefore, rfl, ho⟩
      · -- No button was found.
        cases ho
        refine ⟨.missed, shot :: asked, .missed hbuttons, ?_⟩
        rw [hbuttons.shown_eq] at hshown'
        dsimp only at h₃
        split at h₃
        next hlimit =>
          obtain ⟨rfl, rfl⟩ := h₃
          exact .inl ⟨rfl, hlimit, hshown'.trans (by simp [shown]), rfl⟩
        next hlimit =>
          exact .inr ⟨fun _ => Nat.lt_of_not_le hlimit, _,
            List.mem_cons_of_mem _ List.mem_cons_self, t₃, ht₃, hshown', h₃⟩
      · -- A button was found, which is tapped.
        cases ho
        obtain ⟨tapped, t₄, ht₄, htap, h₄⟩ := ht₃.order h₃
        have hdelay : b.delay ∈ s.claimWaits := by
          refine List.mem_cons_of_mem _ (List.mem_cons_of_mem _ (List.mem_map_of_mem ?_))
          rw [hbuttons]
          exact List.mem_append_right _ List.mem_cons_self
        have hscan : s.Scanned .hit (shot :: (asked' ++
            [s.seeking screen b (.ok (some p)), ⟨.command (.tap p.x p.y), tapped⟩])) :=
          .hit hbuttons hbefore
        refine ⟨.hit, _, hscan, .inr ⟨nofun, _, hdelay, t₄, ht₄, ?_, h₄⟩⟩
        rw [hshown', htap, shown_append, hbefore.shown_eq]
        simp [shot, shown, seeking, Request.isShown, Request.isLogged]
    · rcases firstButton_goes hbroken with ⟨-, ho⟩ | ⟨_, _, _, _, _, _, _, _, ho⟩
      all_goals exact nomatch ho

/-- Looks that follow others. -/
theorem claimLooks_goes {looks : Nat}
    (hlooks : before.length + looks = s.claim.maxIterations.toNat)
    (hbefore : ∀ earlier, earlier <+: before →
      Scan.misses earlier < max s.claim.missLimit.toNat 1) (ht : Unstopped t)
    (h : (s.claimLooks looks ⟨before.length, before.count .hit⟩ (Scan.misses before)).run.Goes
      t r) : ∃ scans, s.ClaimsOn before (shown t) r scans := by
  -- The counters of the routine are read off the looks before, which grow from look to look.
  induction looks generalizing before t with
  | zero =>
    obtain ⟨rfl, rfl⟩ := h
    have hlooks : before.length = s.claim.maxIterations.toNat := hlooks
    exact ⟨before, ⟨[], [], (List.append_nil _).symm, .nil, rfl⟩, hlooks.le,
      fun earlier hearlier _ => hbefore earlier hearlier, .inl ⟨.inl hlooks, rfl⟩⟩
  | succ looks ih =>
    have hfew : before.length < s.claim.maxIterations.toNat := by omega
    have hmisses : Scan.misses before < max s.claim.missLimit.toNat 1 :=
      hbefore before List.prefix_rfl
    obtain ⟨scan, talk, hscan, hend⟩ := claimLook_goes ht h
    rw [Scan.counted_concat, ← Scan.misses_concat] at hend
    rcases hend with ⟨rfl, hlimit, hshown, rfl⟩ | ⟨hgoing, x, hx, u, hu, hshown, hrest⟩
    · have henough : max s.claim.missLimit.toNat 1 ≤ Scan.misses (before ++ [.missed]) := by
        rw [Scan.misses_concat, Scan.missesAfter]
        omega
      rw [hshown]
      exact ⟨_, .last hscan hfew hbefore (.inl ⟨.inr henough, rfl⟩)⟩
    rcases hu.pauseSeconds hrest with ⟨hwait, hnil, rfl⟩ | ⟨u', hu', hshown', hrest⟩
    · rw [hshown, hnil, List.append_nil]
      exact ⟨_, .last hscan hfew hbefore (.inr ⟨rfl, x, hx, hwait⟩)⟩
    · have hopen : Scan.misses (before ++ [scan]) < max s.claim.missLimit.toNat 1 := by
        rw [Scan.misses_concat]
        cases scan with
        | failed => exact hmisses
        | missed => exact Nat.lt_of_lt_of_le (hgoing rfl) (Nat.le_max_left _ _)
        | hit => exact Nat.lt_of_lt_of_le Nat.one_pos (Nat.le_max_right _ _)
      have hopen' : ∀ earlier, earlier <+: before ++ [scan] →
          Scan.misses earlier < max s.claim.missLimit.toNat 1 := by
        intro earlier hearlier
        obtain rfl | hearlier := List.prefix_concat_iff.1 hearlier
        · exact hopen
        · exact hbefore earlier hearlier
      have hlength : (before ++ [scan]).length + looks = s.claim.maxIterations.toNat := by
        rw [List.length_append, List.length_singleton]
        omega
      obtain ⟨scans, hscans⟩ := ih hlength hopen' hu' hrest
      rw [hshown, hshown']
      exact ⟨scans, hscans.prepend hscan⟩

end

end

end Settings

/-- A claim routine that is never told to stop, whatever the surroundings answer. Each of its looks
takes one screenshot. If that succeeds, the buttons are asked for in the order of the settings up to
the first one that is found, and that one is tapped. The routine goes on as long as there may be
more looks and fewer than the limit, which is at least one, were in vain since the last hit; then it
returns the number of its screenshots and that of its taps. Only a wait that is too long for any
clock cuts it short. -/
theorem claimRewards_looks {σ : Type} (reply : (q : Request) → σ → q.Answer × σ) (around : σ)
    (s : Settings) :
    let answer := Chronicle.answer reply none
    let course := shown (s.claimRewards.run.transcript answer ⟨around, [], []⟩)
    let (result, chronicle) := s.claimRewards.run.run answer ⟨around, [], []⟩
    chronicle.log = (course.map Sigma.fst).filter Request.isLogged ∧
      ∃ scans, s.Claims course result scans ∧ scans.length = shots course ∧
        scans.count .hit = course.countP isTap ∧ scans.count .hit ≤ scans.length ∧
        scans.length ≤ s.claim.maxIterations.toNat := by
  intro answer course
  obtain ⟨hlog, -⟩ := Chronicle.run_eq reply none s.claimRewards.run ⟨around, [], []⟩
  refine ⟨hlog.trans (List.nil_append _), ?_⟩
  have hstart : ∀ earlier : List Scan, earlier <+: [] →
      Scan.misses earlier < max s.claim.missLimit.toNat 1 := by
    intro earlier hearlier
    obtain rfl := List.prefix_nil.1 hearlier
    exact Nat.lt_of_lt_of_le Nat.one_pos (Nat.le_max_right _ _)
  obtain ⟨scans, ⟨_, talks, rfl, htalks, hcourse⟩, hfew, hcontinues, hends⟩ :
      ∃ scans, s.ClaimsOn [] course
        (s.claimRewards.run.run answer ⟨around, [], []⟩).1 scans :=
    Settings.claimLooks_goes (Nat.zero_add _) hstart
      (Chronicle.unstopped reply s.claimRewards.run ⟨around, [], []⟩)
      (Dialogue.goes_transcript answer s.claimRewards.run ⟨around, [], []⟩)
  obtain ⟨hshots, htaps⟩ := Settings.counts_of_scanned htalks
  have hcourse' : course = talks.flatten := hcourse
  rw [hcourse']
  refine ⟨scans, ⟨⟨talks, htalks, rfl⟩, fun n hn => ?_, hends⟩, hshots.symm, htaps.symm,
    List.count_le_length, hfew⟩
  have hlength : (scans.take n).length = n := List.length_take_of_le hn.le
  rintro (hmany | hmissed)
  · omega
  · refine Nat.not_lt.2 hmissed (hcontinues _ (List.take_prefix n scans) fun heq => ?_)
    rw [heq] at hlength
    omega

end Autoplay
