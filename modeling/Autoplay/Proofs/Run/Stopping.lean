import Autoplay.Proofs.Dialogue.Rules
import Autoplay.Run.Program

/-!
# A stop ends what is under way

Every part of a run asks whether it is to stop, directly or at the end of a wait, and every part
that goes on without end makes entries in the log of the run. `Heeds` says both of a part, against
a stop that comes with a certain entry or never: once it was told to stop it asks nothing more and
its result says so, its result says so only then, and it does not use up its rounds if the stop
comes earlier. This file has the rules of a stop and how parts that heed it are joined; the parts
themselves follow in `Proofs/Run/Heeding.lean`.
-/

namespace Autoplay

/-- Whether a request makes an entry in the log of a run: commands and questions about a screen. -/
def Request.isLogged : Request → Bool
  | .command _ => true
  | .find .. => true
  | .findAll .. => true
  | .readText .. => true
  | _ => false

/-- Whether a request asks whether to stop, now or by the end of a wait. -/
def Request.asksStop : Request → Bool
  | .stopRequested => true
  | .pause _ => true
  | _ => false

/-- What a run knows of a stop, and how far it is away. -/
structure StopState where
  /-- Whether an answer said to stop. -/
  told : Bool
  /-- The number of entries until the stop comes. -/
  left : Nat

/-- The rules of a stop that comes after some entries, or never. Nothing is asked any more after an
answer that said to stop, and rounds may be used up only if the stop never comes. -/
def stopRules (comes : Bool) : Rules Request Request.Answer StopState where
  asks g _ := g.told = false
  may g q a :=
    match q, a with
    | .stopRequested, stop => stop = (comes && g.left == 0)
    | .pause _, stop => stop = (comes && g.left == 0)
    | _, _ => True
  after g q a :=
    match q, a with
    | .stopRequested, stop => { g with told := stop }
    | .pause _, stop => { g with told := stop }
    | q, _ => { g with left := g.left - q.isLogged.toNat }
  halts g b := g.told = false ∧ (comes = true → b ≠ .outOfRounds)

/-- What is known at the end of a dialogue that began with some entries left. -/
structure Heeded (comes : Bool) (left : Nat) {α : Type} (stopped : α → Prop) (used : α → Nat)
    (g : StopState) (a : α) : Prop where
  /-- The result says that the dialogue was told to stop just when it was. -/
  told : g.told = true ↔ stopped a
  /-- If it was not, at least so many entries were made. -/
  made : comes = true → g.told = false → g.left + used a ≤ left

/-- A dialogue heeds a stop that comes before `rounds` entries are made, or never: it ends when it
is told to stop, `stopped` says of its result that it was, and `used` is a number of entries that it
has made if it was not. -/
def Heeds (comes : Bool) (rounds : Nat) {α : Type} (stopped : α → Prop) (used : α → Nat)
    (d : Talk α) : Prop :=
  ∀ left, (comes = true → left < rounds) →
    d.Follows (stopRules comes) (Heeded comes left stopped used) ⟨false, left⟩

/-- The same for a dialogue that may fail: it fails with `stop` when it was told to stop. -/
def HeedsAs (comes : Bool) (rounds : Nat) {ε α : Type} (stop : ε) (used : Except ε α → Nat)
    (x : ExceptT ε Talk α) : Prop :=
  Heeds comes rounds (fun r => r = .error stop) used x.run

/-- A dialogue that may fail heeds a stop, no matter how many entries it makes. -/
abbrev Obeys (comes : Bool) (rounds : Nat) {ε α : Type} (stop : ε) (x : ExceptT ε Talk α) : Prop :=
  HeedsAs comes rounds stop (fun _ => 0) x

/-- A dialogue that never asks whether to stop. -/
abbrev Calm (comes : Bool) (rounds : Nat) {α : Type} (d : Talk α) : Prop :=
  Heeds comes rounds (fun _ => False) (fun _ => 0) d

variable {comes : Bool} {rounds : Nat} {α β ε : Type}

section

variable {stopped : α → Prop} {was : β → Prop} {used : α → Nat} {before : β → Nat}

/-- What is done at once was not told to stop and made no entry. -/
theorem heeds_done {a : α} (h : ¬ stopped a) (hu : used a = 0) :
    Heeds comes rounds stopped used (.done a) := by
  intro left _
  refine ⟨?_, fun _ _ => by rw [hu]; exact Nat.le_refl left⟩
  show false = true ↔ stopped a
  simp [h]

/-- A length of time that cannot be measured may come up whether a stop comes or not. -/
theorem heeds_overflow : Heeds comes rounds stopped used (.halt .overflow) :=
  fun _ _ => ⟨rfl, fun _ => nofun⟩

/-- No rounds are left only if as many entries were made. -/
theorem heeds_outOfRounds : Heeds comes 0 stopped used (.halt .outOfRounds) := by
  intro left hleft
  refine ⟨rfl, fun hc => ?_⟩
  have := hleft hc
  omega

/-- A dialogue that begins with less entries left. -/
theorem Heeds.follows {d : Talk α} {u : α → Nat} (h : Heeds comes rounds stopped u d)
    {left left' : Nat} (hleft : comes = true → left' < rounds)
    (hused : comes = true → ∀ a, ¬ stopped a → left' + used a ≤ left + u a) :
    d.Follows (stopRules comes) (Heeded comes left stopped used) ⟨false, left'⟩ := by
  refine (h left' hleft).mono fun g a ⟨htold, hmade⟩ => ⟨htold, fun hc ht => ?_⟩
  have hs : ¬ stopped a := fun hs => by
    rw [htold.2 hs] at ht
    exact nomatch ht
  have := hmade hc ht
  have := hused hc a hs
  omega

/-- Fewer entries may be counted, and less rounds taken for granted. -/
theorem Heeds.mono {d : Talk α} {rounds' : Nat} {used' : α → Nat}
    (h : Heeds comes rounds stopped used d) (hr : rounds' ≤ rounds)
    (hu : ∀ a, ¬ stopped a → used' a ≤ used a) : Heeds comes rounds' stopped used' d :=
  fun left hleft => h.follows (fun hc => Nat.lt_of_lt_of_le (hleft hc) hr) fun _ a hs =>
    Nat.add_le_add_left (hu a hs) left

/-- Joined parts heed a stop when they do and when the end of the first one is passed on. -/
theorem Heeds.bind {d : Talk β} {f : β → Talk α} (hd : Heeds comes rounds was before d)
    (hf : ∀ b, ¬ was b →
      Heeds comes (rounds - before b) stopped (fun a => used a - before b) (f b))
    (hstop : ∀ b, was b → ∃ a, f b = .done a ∧ stopped a) :
    Heeds comes rounds stopped used (d >>= f) := by
  intro left hleft
  refine Dialogue.follows_bind.2 ((hd left hleft).mono ?_)
  rintro ⟨told, left'⟩ b ⟨htold, hmade⟩
  cases told with
  | false =>
    -- The second part begins with the entries that the first one has left.
    refine (hf b fun h => nomatch htold.2 h).follows (fun hc => ?_) fun hc a _ => ?_
    · have := hmade hc rfl
      have := hleft hc
      simp only at *
      omega
    · have := hmade hc rfl
      simp only at *
      omega
  | true =>
    -- The second part asks nothing any more.
    obtain ⟨a, ha, hs⟩ := hstop b (htold.1 rfl)
    rw [ha]
    exact ⟨⟨fun _ => hs, fun _ => rfl⟩, fun _ => nofun⟩

/-- After a part that never asks whether to stop. -/
theorem Heeds.bind_calm {d : Talk β} {f : β → Talk α} (hd : Calm comes rounds d)
    (hf : ∀ b, Heeds comes rounds stopped used (f b)) :
    Heeds comes rounds stopped used (d >>= f) :=
  hd.bind (fun b _ => hf b) fun _ h => nomatch h

/-- A request that does not ask whether to stop. -/
theorem calm_ask {q : Request} (h : q.asksStop = false) : Calm comes rounds (Talk.ask q) := by
  intro left _
  refine ⟨rfl, fun a _ => ?_⟩
  cases q with
  | stopRequested => exact nomatch h
  | pause length => exact nomatch h
  | _ => exact ⟨by simp [stopRules], fun _ _ => Nat.sub_le _ _⟩

/-- The question whether to stop. -/
theorem heeds_stopRequested :
    Heeds comes rounds (fun told => told = true) (fun _ => 0) Talk.stopRequested :=
  fun _ _ => ⟨rfl, fun _ _ => ⟨Iff.rfl, fun _ _ => Nat.le_refl _⟩⟩

end

/-! ## Dialogues that may fail -/

section

variable {stop : ε} {used : Except ε α → Nat} {before : Except ε β → Nat}

/-- A result at once. -/
theorem heedsAs_pure {a : α} (hu : used (.ok a) = 0) : HeedsAs comes rounds stop used (pure a) :=
  heeds_done nofun hu

/-- A failure that is no stop. -/
theorem heedsAs_throw {e : ε} (h : e ≠ stop) (hu : used (.error e) = 0) :
    HeedsAs comes rounds stop used (throw e) :=
  heeds_done (fun he => h (Except.error.inj he)) hu

/-- Joined parts that may fail heed a stop when each one does. -/
theorem HeedsAs.bind {x : ExceptT ε Talk β} {f : β → ExceptT ε Talk α}
    (hx : HeedsAs comes rounds stop before x)
    (hf : ∀ b, HeedsAs comes (rounds - before (.ok b)) stop
      (fun r => used r - before (.ok b)) (f b))
    (he : ∀ e, e ≠ stop → used (.error e) ≤ before (.error e)) :
    HeedsAs comes rounds stop used (x >>= f) := by
  unfold HeedsAs
  rw [Dialogue.run_bind_except]
  refine Heeds.bind hx (fun r hr => ?_) fun r hr => ⟨.error stop, ?_, rfl⟩
  · cases r with
    | ok b => exact hf b
    | error e =>
      have hne : e ≠ stop := fun h => hr (by rw [h])
      exact heeds_done (fun h => hne (Except.error.inj h)) (Nat.sub_eq_zero_of_le (he e hne))
  · subst hr
    rfl

/-- Joined parts that may fail, when the entries of the first one need not be counted. -/
theorem Obeys.then {x : ExceptT ε Talk β} {f : β → ExceptT ε Talk α}
    (hx : Obeys comes rounds stop x) (hf : ∀ b, HeedsAs comes rounds stop used (f b))
    (he : ∀ e, used (.error e) = 0) :
    HeedsAs comes rounds stop used (x >>= f) :=
  HeedsAs.bind hx hf fun e _ => Nat.le_of_eq (he e)

/-- Joined parts that may fail, when no entries need be counted. -/
theorem Obeys.bind {x : ExceptT ε Talk β} {f : β → ExceptT ε Talk α}
    (hx : Obeys comes rounds stop x) (hf : ∀ b, Obeys comes rounds stop (f b)) :
    Obeys comes rounds stop (x >>= f) :=
  hx.then hf fun _ => rfl

/-- A part that never fails, when its end is passed on as a stop. -/
theorem HeedsAs.lift_bind {d : Talk β} {f : β → ExceptT ε Talk α} {was : β → Prop}
    (hd : Heeds comes rounds was (fun _ => 0) d)
    (hf : ∀ b, ¬ was b → HeedsAs comes rounds stop used (f b))
    (hstop : ∀ b, was b → f b = throw stop) :
    HeedsAs comes rounds stop used (ExceptT.lift d >>= f) := by
  unfold HeedsAs
  rw [Dialogue.run_lift_bind]
  exact hd.bind hf fun b hb => ⟨.error stop, by rw [hstop b hb]; rfl, rfl⟩

/-- A part that never asks whether to stop and never fails. -/
theorem obeys_lift {d : Talk α} (h : Calm comes rounds d) :
    Obeys comes rounds stop (ExceptT.lift d) :=
  h.bind_calm fun _ => heeds_done nofun rfl

/-- A part that never asks whether to stop, as a part of something that breaks off at one. -/
theorem obeys_stoppable {d : Talk α} (h : Calm comes rounds d) :
    Obeys comes rounds ⟨⟩ (liftM d : Stoppable α) := obeys_lift h

/-- A part that breaks off at a stop, as a part of a step. -/
theorem HeedsAs.inPlay {x : Stoppable α} {used : Except StepError α → Nat}
    {before : Except Stopped α → Nat} (h : HeedsAs comes rounds ⟨⟩ before x)
    (hu : ∀ a, used (.ok a) ≤ before (.ok a)) :
    HeedsAs comes rounds .aborted used (liftM x : Play α) := by
  refine Heeds.bind h (fun r hr => ?_) fun r hr => ?_
  · cases r with
    | ok a => exact heeds_done nofun (Nat.sub_eq_zero_of_le (hu a))
    | error e => exact absurd rfl hr
  · subst hr
    exact ⟨_, rfl, rfl⟩

/-- A part that breaks off at a stop, when no entries need be counted. -/
theorem Obeys.inPlay {x : Stoppable α} (h : Obeys comes rounds ⟨⟩ x) :
    Obeys comes rounds .aborted (liftM x : Play α) :=
  HeedsAs.inPlay h fun _ => Nat.le_refl 0

/-- A part that never asks whether to stop, as a part of a step. -/
theorem obeys_play {d : Talk α} (h : Calm comes rounds d) :
    Obeys comes rounds .aborted (liftM d : Play α) :=
  (obeys_stoppable h).inPlay

end

end Autoplay
