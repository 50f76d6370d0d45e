import Autoplay.Proofs.Dialogue.Transcript
import Autoplay.Run.Program

/-!
# How the parts of a run conduct themselves

Whatever is answered, every part of a run keeps to three things. It gives commands only after a
check that found that the run is not to stop: a single command, or those of a fixed sequence. It
goes on in the same way whether a command that may fail does so or not, and whether a question
about a screen fails or finds nothing. And it marks the beginning of steps only where it may.
`Orderly` says all of this of a part, and this file has the rules by which orderly parts are joined;
the parts themselves follow in `Proofs/Run/Order.lean`.
-/

namespace Autoplay

/-! ## Requests and transcripts -/

/-- What a run asked and was answered. -/
abbrev Transcript : Type := List (Exchange Request Request.Answer)

namespace Request

/-- Whether a request marks the beginning of a step, on its own or as a member of a group. -/
def isMark : Request → Bool
  | .note (.began _) => true
  | .note (.joined _) => true
  | _ => false

/-- The command that is given. -/
def command? : Request → Option Command
  | .command c => some c
  | _ => none

/-- An answer after tolerated failures are mended: a gesture or the start or the end of an app that
fails would have gone well, and a question about a screen that fails would have found nothing. -/
def excused : (q : Request) → q.Answer → q.Answer
  | .command (.tap _ _), .error _ => .ok ()
  | .command (.swipe ..), .error _ => .ok ()
  | .command (.key _), .error _ => .ok ()
  | .command (.forceStop _), .error _ => .ok ()
  | .command (.startApp _), .error _ => .ok ()
  | .find .., .error _ => .ok none
  | .findAll .., .error _ => .ok []
  | .readText .., .error _ => .ok ""
  | _, a => a

end Request

/-- Whether an answer says that the run is to stop. -/
def tellsStop : Exchange Request Request.Answer → Bool
  | ⟨.stopRequested, told⟩ => told
  | ⟨.pause _, told⟩ => told
  | _ => false

/-- Readings of the clock. -/
def readings (ns : List Nat) : Transcript := ns.map fun n => ⟨.clock, n⟩

/-- Commands are given only after a check that found that the run is not to stop: one command, or
the commands of one of some sequences from its first on, and nothing in between but readings of the
clock before the first one. -/
inductive Cautious (sequences : List Command → Prop) : Transcript → Prop where
  /-- Nothing was asked. -/
  | nil : Cautious sequences []
  /-- Something was asked that is no command. -/
  | other {q : Request} (a : q.Answer) {t : Transcript} (hq : q.command? = none)
      (ht : Cautious sequences t) : Cautious sequences (⟨q, a⟩ :: t)
  /-- After a check, some commands were given. -/
  | checked (ns : List Nat) {issued t : Transcript} {cs whole : List Command}
      (hissued : issued.map Sigma.fst = cs.map Request.command) (hcs : cs <+: whole)
      (hwhole : whole.length = 1 ∨ sequences whole) (ht : Cautious sequences t) :
      Cautious sequences (⟨.stopRequested, false⟩ :: (readings ns ++ (issued ++ t)))

namespace Cautious

variable {sequences : List Command → Prop} {t u : Transcript}

/-- One after the other. -/
theorem append (ht : Cautious sequences t) (hu : Cautious sequences u) :
    Cautious sequences (t ++ u) := by
  induction ht with
  | nil => exact hu
  | other a hq _ ih => exact .other a hq ih
  | checked ns hissued hcs hwhole _ ih =>
    rw [List.cons_append, List.append_assoc, List.append_assoc]
    exact .checked ns hissued hcs hwhole ih

/-- A command after a check. -/
theorem command {c : Command} (a : Except DeviceError c.Reply) (ht : Cautious sequences t) :
    Cautious sequences (⟨.stopRequested, false⟩ :: ⟨.command c, a⟩ :: t) := by
  have hissued : List.map Sigma.fst ([⟨.command c, a⟩] : Transcript) = [c].map Request.command :=
    rfl
  exact .checked [] hissued List.prefix_rfl (.inl rfl) ht

/-- Between a check and the command after it the clock may be read. -/
theorem clock (n : Nat) (ht : Cautious sequences (⟨.stopRequested, false⟩ :: t)) :
    Cautious sequences (⟨.stopRequested, false⟩ :: ⟨.clock, n⟩ :: t) := by
  cases ht with
  | other _ _ ht => exact .other _ rfl (.other _ rfl ht)
  | checked ns hissued hcs hwhole ht => exact .checked (n :: ns) hissued hcs hwhole ht

end Cautious

/-! ## Orderly parts -/

/-- A part of a run marks only steps that it may, gives commands with caution, and is indifferent
to tolerated failures. -/
structure Orderly (marks : Request → Prop) (sequences : List Command → Prop) {α : Type}
    (d : Talk α) : Prop where
  /-- It marks only what it may. -/
  asks : d.Asks fun q => q.isMark = true → marks q
  /-- It gives commands with caution. -/
  cautious : ∀ {t r}, d.Goes t r → Cautious sequences t
  /-- It goes on in the same way after a tolerated failure. -/
  indifferent : d.Indifferent Request.excused

/-- The same of a part that may fail, which fails with `stop` only if an answer said so. -/
structure OrderlyAs (marks : Request → Prop) (sequences : List Command → Prop) {ε α : Type}
    (stop : ε) (x : ExceptT ε Talk α) : Prop where
  /-- It is orderly. -/
  orderly : Orderly marks sequences x.run
  /-- It breaks off only if it was told to. -/
  told : ∀ {t}, x.run.Goes t (.ok (.error stop)) → ∃ e ∈ t, tellsStop e = true

/-- A part that follows a check is orderly together with it. -/
structure Cleared (marks : Request → Prop) (sequences : List Command → Prop) {ε α : Type}
    (stop : ε) (x : ExceptT ε Talk α) : Prop where
  /-- It marks only what it may. -/
  asks : x.run.Asks fun q => q.isMark = true → marks q
  /-- After a check that was passed, it gives commands with caution. -/
  cautious : ∀ {t r}, x.run.Goes t r → Cautious sequences (⟨.stopRequested, false⟩ :: t)
  /-- It goes on in the same way after a tolerated failure. -/
  indifferent : x.run.Indifferent Request.excused
  /-- It breaks off only if it was told to. -/
  told : ∀ {t}, x.run.Goes t (.ok (.error stop)) → ∃ e ∈ t, tellsStop e = true

variable {marks : Request → Prop} {sequences : List Command → Prop} {α β ε : Type}

/-- A result at once. -/
theorem orderly_done (a : α) : Orderly marks sequences (.done a) :=
  ⟨trivial, fun ⟨ht, _⟩ => ht ▸ .nil, trivial⟩

/-- A breakdown. -/
theorem orderly_halt (b : Breakdown) : Orderly marks sequences (.halt b : Talk α) :=
  ⟨trivial, fun ⟨ht, _⟩ => ht ▸ .nil, trivial⟩

/-- A request that is no command, and what follows its answer. -/
theorem orderly_ask {q : Request} {next : q.Answer → Talk α} (hmark : q.isMark = true → marks q)
    (hq : q.command? = none) (hsame : ∀ a, next (q.excused a) = next a)
    (hnext : ∀ a, Orderly marks sequences (next a)) :
    Orderly marks sequences (Dialogue.ask q next) where
  asks := ⟨hmark, fun a => (hnext a).asks⟩
  cautious := by
    rintro t r ⟨a, rest, rfl, h⟩
    exact .other a hq ((hnext a).cautious h)
  indifferent := ⟨hsame, fun a => (hnext a).indifferent⟩

/-- A request that is no command and of which no failure is tolerated. -/
theorem orderly_request {q : Request} (hmark : q.isMark = true → marks q)
    (hq : q.command? = none) (hsame : ∀ a, q.excused a = a) :
    Orderly marks sequences (Talk.ask q) :=
  orderly_ask hmark hq (fun a => congrArg _ (hsame a)) orderly_done

/-- Joined parts are orderly when each one is. -/
theorem Orderly.bind {d : Talk β} {f : β → Talk α} (hd : Orderly marks sequences d)
    (hf : ∀ b, Orderly marks sequences (f b)) : Orderly marks sequences (d >>= f) where
  asks := hd.asks.bind fun b => (hf b).asks
  cautious := by
    intro t r h
    -- A transcript of both parts is one of the first and one of the second, or the first broke off.
    rcases Dialogue.goes_bind.1 h with ⟨b, t₁, t₂, rfl, h₁, h₂⟩ | ⟨b, -, h⟩
    · exact (hd.cautious h₁).append ((hf b).cautious h₂)
    · exact hd.cautious h
  indifferent := hd.indifferent.bind fun b => (hf b).indifferent

section

variable {stop : ε}

/-- A result at once. -/
theorem orderlyAs_pure (a : α) : OrderlyAs marks sequences stop (pure a) :=
  ⟨orderly_done _, fun ⟨_, h⟩ => nomatch h⟩

/-- A failure that is no stop. -/
theorem orderlyAs_throw {e : ε} (h : e ≠ stop) :
    OrderlyAs marks sequences stop (throw e : ExceptT ε Talk α) :=
  ⟨orderly_done _, fun ⟨_, hr⟩ => absurd (Except.error.inj (Except.ok.inj hr)).symm h⟩

/-- Joined parts that may fail are orderly when each one is. -/
theorem OrderlyAs.bind {x : ExceptT ε Talk β} {f : β → ExceptT ε Talk α}
    (hx : OrderlyAs marks sequences stop x) (hf : ∀ b, OrderlyAs marks sequences stop (f b)) :
    OrderlyAs marks sequences stop (x >>= f) where
  orderly := by
    rw [Dialogue.run_bind_except]
    refine hx.orderly.bind fun r => ?_
    cases r with
    | ok b => exact (hf b).orderly
    | error e => exact orderly_done _
  told := by
    intro t h
    rcases Dialogue.goes_bind_except.1 h with ⟨b, t₁, t₂, rfl, -, h₂⟩ | ⟨e, he, h⟩
    · obtain ⟨x, hx, htold⟩ := (hf b).told h₂
      exact ⟨x, List.mem_append_right _ hx, htold⟩
    · cases he
      exact hx.told h

/-- A part that never fails. -/
theorem orderlyAs_lift {d : Talk α} (h : Orderly marks sequences d) :
    OrderlyAs marks sequences stop (ExceptT.lift d) where
  orderly := h.bind fun _ => orderly_done _
  told := by
    intro t h
    obtain ⟨a, t₁, t₂, -, -, -, ha⟩ := Dialogue.goes_bind_ok.1 h
    cases ha

/-- A request that is no command, and what follows its answer. -/
theorem OrderlyAs.of_ask {q : Request} {f : q.Answer → ExceptT ε Talk α} {x : ExceptT ε Talk α}
    (hmark : q.isMark = true → marks q) (hq : q.command? = none)
    (hsame : ∀ a, f (q.excused a) = f a) (hf : ∀ a, OrderlyAs marks sequences stop (f a))
    (hx : x.run = Dialogue.ask q fun a => (f a).run) : OrderlyAs marks sequences stop x where
  orderly := by
    rw [hx]
    exact orderly_ask hmark hq (fun a => congrArg ExceptT.run (hsame a)) fun a => (hf a).orderly
  told := by
    rw [hx]
    rintro t ⟨a, rest, rfl, h⟩
    obtain ⟨e, he, htold⟩ := (hf a).told h
    exact ⟨e, List.mem_cons_of_mem _ he, htold⟩

/-- A part that is orderly by itself is so after a check. -/
theorem OrderlyAs.cleared {x : ExceptT ε Talk α} (h : OrderlyAs marks sequences stop x) :
    Cleared marks sequences stop x :=
  ⟨h.orderly.asks, fun ht => .other _ rfl (h.orderly.cautious ht), h.orderly.indifferent, h.told⟩

end

/-- A part that never fails, as a part of something that breaks off at a stop. -/
theorem orderly_stoppable {d : Talk α} (h : Orderly marks sequences d) :
    OrderlyAs marks sequences ⟨⟩ (liftM d : Stoppable α) := orderlyAs_lift h

/-- A part that breaks off at a stop, as a part of a step. -/
theorem OrderlyAs.inPlay {x : Stoppable α} (h : OrderlyAs marks sequences ⟨⟩ x) :
    OrderlyAs marks sequences .aborted (liftM x : Play α) where
  orderly := h.orderly.bind fun r => by cases r <;> exact orderly_done _
  told := by
    intro t ht
    obtain ⟨r, t₁, t₂, rfl, h₁, h₂⟩ := Dialogue.goes_bind_ok.1 ht
    cases r with
    | ok a => exact nomatch h₂.2
    | error e =>
      obtain ⟨x, hx, htold⟩ := h.told h₁
      exact ⟨x, List.mem_append_left _ hx, htold⟩

/-- A part that never fails, as a part of a step. -/
theorem orderly_play {d : Talk α} (h : Orderly marks sequences d) :
    OrderlyAs marks sequences .aborted (liftM d : Play α) := (orderly_stoppable h).inPlay

/-- What may fail passes a stop on and no other failure. -/
theorem OrderlyAs.attempt {p : Play α} (h : OrderlyAs marks sequences .aborted p) :
    OrderlyAs marks sequences .aborted (Play.attempt p) where
  orderly := h.orderly.bind fun r => by split <;> exact orderly_done _
  told := by
    intro t ht
    obtain ⟨r, t₁, t₂, rfl, h₁, h₂⟩ := Dialogue.goes_bind_ok.1 ht
    split at h₂
    · obtain ⟨x, hx, htold⟩ := h.told h₁
      exact ⟨x, List.mem_append_left _ hx, htold⟩
    · exact nomatch h₂.2

/-! ## Checks -/

/-- A check and what follows it if it is passed. -/
theorem OrderlyAs.of_check {ε : Type} {stop : ε} {x y : ExceptT ε Talk α}
    (hx : Cleared marks sequences stop x)
    (hy : y.run = Dialogue.ask .stopRequested fun told =>
      if told then .done (.error stop) else x.run) :
    OrderlyAs marks sequences stop y where
  orderly := by
    rw [hy]
    refine ⟨⟨nofun, fun told => ?_⟩, ?_, fun _ => rfl, fun told => ?_⟩
    · cases told with
      | true => exact trivial
      | false => exact hx.asks
    · rintro t r ⟨told, rest, rfl, h⟩
      cases told with
      | true =>
        obtain ⟨rfl, -⟩ := h
        exact .other _ rfl .nil
      | false => exact hx.cautious h
    · cases told with
      | true => exact trivial
      | false => exact hx.indifferent
  told := by
    rw [hy]
    rintro t ⟨told, rest, rfl, h⟩
    cases told with
    | true => exact ⟨_, List.mem_cons_self, rfl⟩
    | false =>
      obtain ⟨x, hx, htold⟩ := hx.told h
      exact ⟨x, List.mem_cons_of_mem _ hx, htold⟩

/-- A check and what follows it. -/
theorem orderly_checked {x : Stoppable α} (hx : Cleared marks sequences ⟨⟩ x) :
    OrderlyAs marks sequences ⟨⟩ (do
      Stoppable.checkpoint
      x) := by
  refine .of_check hx ?_
  show Dialogue.ask _ _ = _
  congr 1
  funext told
  cases told <;> rfl

/-- The same as a part of a step. -/
theorem orderly_checked_play {x : Play α} (hx : Cleared marks sequences .aborted x) :
    OrderlyAs marks sequences .aborted (do
      Stoppable.checkpoint
      x : Play α) := by
  refine .of_check hx ?_
  show Dialogue.ask _ _ = _
  congr 1
  funext told
  cases told <;> rfl

/-! ## Sequences of commands -/

/-- A dialogue gives the commands of a sequence, in order and perhaps not all of them, some of which
were given before; none of them is one whose failure is tolerated. -/
def Gives (sequences : List Command → Prop) (post : β → Prop) : List Command → Talk β → Prop
  | before, .done b => post b ∧ ∃ whole, before <+: whole ∧ sequences whole
  | before, .halt _ => ∃ whole, before <+: whole ∧ sequences whole
  | before, Dialogue.ask q next => ∃ c, q = .command c ∧ (∀ a, q.excused a = a) ∧
    ∀ a, Gives sequences post (before ++ [c]) (next a)

namespace Gives

variable {post : β → Prop} {before : List Command} {d : Talk β} {f : β → Talk α}

/-- It asks nothing but commands. -/
theorem asks_bind {P : Request → Prop} (h : Gives sequences post before d)
    (hP : ∀ c, P (.command c)) (hf : ∀ b, post b → (f b).Asks P) : (d.bind f).Asks P := by
  induction d generalizing before with
  | done b => exact hf b h.1
  | halt b => exact trivial
  | ask q next ih =>
    obtain ⟨c, rfl, -, h⟩ := h
    exact ⟨hP c, fun a => ih a (h a)⟩

/-- No failure is tolerated. -/
theorem indifferent_bind (h : Gives sequences post before d)
    (hf : ∀ b, post b → (f b).Indifferent Request.excused) :
    (d.bind f).Indifferent Request.excused := by
  induction d generalizing before with
  | done b => exact hf b h.1
  | halt b => exact trivial
  | ask q next ih =>
    obtain ⟨c, rfl, hsame, h⟩ := h
    exact ⟨fun a => congrArg (fun a => (next a).bind f) (hsame a), fun a => ih a (h a)⟩

/-- Its transcript has commands of a sequence. -/
theorem of_goes (h : Gives sequences post before d) {t : Transcript} {r : Except Breakdown β}
    (ht : d.Goes t r) : (∃ cs whole, t.map Sigma.fst = cs.map Request.command ∧
      before ++ cs <+: whole ∧ sequences whole) ∧ ∀ b, r = .ok b → post b := by
  induction d generalizing before t with
  | done b =>
    obtain ⟨hb, whole, hbefore, hwhole⟩ := h
    obtain ⟨rfl, rfl⟩ := ht
    refine ⟨⟨[], whole, rfl, by rwa [List.append_nil], hwhole⟩, fun b' hb' => ?_⟩
    cases hb'
    exact hb
  | halt b =>
    obtain ⟨whole, hbefore, hwhole⟩ := h
    obtain ⟨rfl, rfl⟩ := ht
    exact ⟨⟨[], whole, rfl, by rwa [List.append_nil], hwhole⟩, nofun⟩
  | ask q next ih =>
    obtain ⟨c, rfl, -, h⟩ := h
    obtain ⟨a, rest, rfl, ht⟩ := ht
    obtain ⟨⟨cs, whole, hcs, hprefix, hwhole⟩, hpost⟩ := ih a (h a) ht
    refine ⟨⟨c :: cs, whole, congrArg (Request.command c :: ·) hcs, ?_, hwhole⟩, hpost⟩
    rwa [List.append_assoc] at hprefix

end Gives

/-! ## After a check -/

section

variable {stop : ε} {x : ExceptT ε Talk α}

/-- The clock may be read after a check. -/
theorem cleared_clock {f : Nat → Stoppable α} (hf : ∀ n, Cleared marks sequences ⟨⟩ (f n)) :
    Cleared marks sequences ⟨⟩ (liftM Talk.clock >>= f : Stoppable α) where
  asks := ⟨nofun, fun n => (hf n).asks⟩
  cautious := by
    rintro t r ⟨n, rest, rfl, h⟩
    exact .clock n ((hf n).cautious h)
  indifferent := ⟨fun _ => rfl, fun n => (hf n).indifferent⟩
  told := by
    rintro t ⟨n, rest, rfl, h⟩
    obtain ⟨e, he, htold⟩ := (hf n).told h
    exact ⟨e, List.mem_cons_of_mem _ he, htold⟩

/-- A command may be given after a check. A failure of it that is tolerated must not matter to what
follows. -/
theorem Cleared.of_command {c : Command} {f : Except DeviceError c.Reply → ExceptT ε Talk α}
    (hsame : ∀ r, f (Request.excused (.command c) r) = f r)
    (hf : ∀ r, OrderlyAs marks sequences stop (f r))
    (hx : x.run = Dialogue.ask (.command c) fun r => (f r).run) :
    Cleared marks sequences stop x := by
  constructor
  all_goals rw [hx]
  · exact ⟨nofun, fun r => (hf r).orderly.asks⟩
  · rintro t r ⟨a, rest, rfl, h⟩
    exact .command a ((hf a).orderly.cautious h)
  · exact ⟨fun r => congrArg ExceptT.run (hsame r), fun r => (hf r).orderly.indifferent⟩
  · rintro t ⟨a, rest, rfl, h⟩
    obtain ⟨e, he, htold⟩ := (hf a).told h
    exact ⟨e, List.mem_cons_of_mem _ he, htold⟩

/-- The commands of a sequence may be given after a check. -/
theorem Cleared.of_gives {d : Talk β} {f : β → ExceptT ε Talk α} {post : β → Prop}
    (hd : Gives sequences post [] d) (hf : ∀ b, post b → OrderlyAs marks sequences stop (f b))
    (hx : x.run = d.bind fun b => (f b).run) : Cleared marks sequences stop x := by
  constructor
  all_goals rw [hx]
  · exact hd.asks_bind nofun fun b hb => (hf b hb).orderly.asks
  · -- The check before, the commands of the sequence, and then what follows on its own.
    intro t r h
    rcases Dialogue.goes_bind.1 h with ⟨b, t₁, t₂, rfl, h₁, h₂⟩ | ⟨b, -, h⟩
    · obtain ⟨⟨cs, whole, hcs, hprefix, hwhole⟩, hb⟩ := hd.of_goes h₁
      exact .checked [] hcs hprefix (.inr hwhole) ((hf b (hb b rfl)).orderly.cautious h₂)
    · obtain ⟨⟨cs, whole, hcs, hprefix, hwhole⟩, -⟩ := hd.of_goes h
      rw [← List.append_nil t]
      exact .checked [] hcs hprefix (.inr hwhole) .nil
  · exact hd.indifferent_bind fun b hb => (hf b hb).orderly.indifferent
  · intro t h
    obtain ⟨b, t₁, t₂, rfl, h₁, h₂⟩ := Dialogue.goes_bind_ok.1 h
    obtain ⟨e, he, htold⟩ := (hf b ((hd.of_goes h₁).2 b rfl)).told h₂
    exact ⟨e, List.mem_append_right _ he, htold⟩

end

/-- A command that is given unless the run is to stop. -/
theorem orderly_order {c : Command} {f : Except DeviceError c.Reply → Stoppable α}
    (hsame : ∀ r, f (Request.excused (.command c) r) = f r)
    (hf : ∀ r, OrderlyAs marks sequences ⟨⟩ (f r)) :
    OrderlyAs marks sequences ⟨⟩ (Stoppable.order c >>= f) := by
  have hgiven : Cleared marks sequences ⟨⟩ (liftM (Talk.command c) >>= f : Stoppable α) :=
    .of_command hsame hf rfl
  refine .of_check hgiven ?_
  show Dialogue.ask _ _ = _
  congr 1
  funext told
  cases told <;> rfl

/-- The same as a part of a step. -/
theorem orderly_order_play {c : Command} {f : Except DeviceError c.Reply → Play α}
    (hsame : ∀ r, f (Request.excused (.command c) r) = f r)
    (hf : ∀ r, OrderlyAs marks sequences .aborted (f r)) :
    OrderlyAs marks sequences .aborted (liftM (Stoppable.order c) >>= f : Play α) := by
  have hgiven : Cleared marks sequences .aborted (liftM (Talk.command c) >>= f : Play α) :=
    .of_command hsame hf rfl
  refine .of_check hgiven ?_
  show Dialogue.ask _ _ = _
  congr 1
  funext told
  cases told <;> rfl

end Autoplay
