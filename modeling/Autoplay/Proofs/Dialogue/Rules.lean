import Autoplay.Dialogue

/-!
# Rules for dialogues

What a dialogue does at every point, whatever it is answered, is stated by rules: a state that the
answers move on, what may be asked in a state, which answers can come, and when the dialogue may
break off. `Dialogue.Follows` says that a dialogue keeps to rules from a state on and that its
result fits the state that it ends in. Main statements: a joined dialogue follows rules when its
parts do (`follows_bind`), and a run whose answers are such as the rules foresee ends as the rules
say (`Follows.run`). `Dialogue.Within` compares dialogues that differ only in the rounds that they
are allowed.
-/

namespace Autoplay

/-- Rules for dialogues, with states of type `Γ`. -/
structure Rules (Q : Type) (A : Q → Type) (Γ : Type) where
  /-- What may be asked. -/
  asks : Γ → Q → Prop
  /-- Which answers can come. -/
  may : Γ → (q : Q) → A q → Prop
  /-- The state after an answer. -/
  after : Γ → (q : Q) → A q → Γ
  /-- When a dialogue may break off. -/
  halts : Γ → Breakdown → Prop

namespace Dialogue

variable {Q : Type} {A : Q → Type} {Γ α β ε σ : Type}

/-- From a state on, a dialogue keeps to rules, and its result fits the state at its end. -/
def Follows (R : Rules Q A Γ) (post : Γ → α → Prop) : Dialogue Q A α → Γ → Prop
  | .done a, g => post g a
  | .halt b, g => R.halts g b
  | .ask q next, g => R.asks g q ∧ ∀ a, R.may g q a → Follows R post (next a) (R.after g q a)

section

variable {R : Rules Q A Γ} {post : Γ → α → Prop} {g : Γ}

/-- Less may be asked of the result. -/
theorem Follows.mono {d : Dialogue Q A α} {post' : Γ → α → Prop} (h : d.Follows R post g)
    (hp : ∀ g a, post g a → post' g a) : d.Follows R post' g := by
  induction d generalizing g with
  | done a => exact hp g a h
  | halt b => exact h
  | ask q next ih => exact ⟨h.1, fun a ha => ih a (h.2 a ha)⟩

/-- A joined dialogue follows rules when the first part does and then the second one. -/
theorem follows_bind {d : Dialogue Q A β} {f : β → Dialogue Q A α} :
    (d.bind f).Follows R post g ↔ d.Follows R (fun g b => (f b).Follows R post g) g := by
  induction d generalizing g with
  | done b => exact Iff.rfl
  | halt b => exact Iff.rfl
  | ask q next ih =>
    exact and_congr_right fun _ => forall_congr' fun a => imp_congr_right fun _ => ih a

/-- A run whose answers the rules foresee ends as the rules say. The relation `holds` ties the state
of the surroundings to that of the rules. -/
theorem Follows.run {d : Dialogue Q A α} (h : d.Follows R post g)
    (answer : (q : Q) → σ → A q × σ) (holds : Γ → σ → Prop) {s : σ} (hs : holds g s)
    (step : ∀ g s q, holds g s → R.asks g q →
      R.may g q (answer q s).1 ∧ holds (R.after g q (answer q s).1) (answer q s).2) :
    (∀ a, (d.run answer s).1 = .ok a → ∃ g', post g' a ∧ holds g' (d.run answer s).2) ∧
      ∀ b, (d.run answer s).1 = .error b → ∃ g', R.halts g' b ∧ holds g' (d.run answer s).2 := by
  induction d generalizing g s with
  | done a =>
    refine ⟨fun b hb => ?_, fun b hb => nomatch hb⟩
    obtain rfl : a = b := Except.ok.inj hb
    exact ⟨g, h, hs⟩
  | halt b =>
    refine ⟨fun a ha => (nomatch ha), fun c hc => ?_⟩
    obtain rfl : b = c := Except.error.inj hc
    exact ⟨g, h, hs⟩
  | ask q next ih =>
    obtain ⟨hmay, hs'⟩ := step g s q hs h.1
    exact ih _ (h.2 _ hmay) hs'

end

/-- Whatever a dialogue is answered, its result has a property. -/
def Yields (P : α → Prop) : Dialogue Q A α → Prop
  | .done a => P a
  | .halt _ => True
  | .ask _ next => ∀ a, Yields P (next a)

/-- Less may be said of the result. -/
theorem Yields.mono {P S : α → Prop} {d : Dialogue Q A α} (h : d.Yields S)
    (hP : ∀ a, S a → P a) : d.Yields P := by
  induction d with
  | done a => exact hP a h
  | halt b => exact h
  | ask q next ih => exact fun a => ih a (h a)

/-- The result of joined dialogues is that of the second one. -/
theorem Yields.bind {P : α → Prop} {S : β → Prop} {d : Dialogue Q A β} {f : β → Dialogue Q A α}
    (hd : d.Yields S) (hf : ∀ b, S b → (f b).Yields P) : (d.bind f).Yields P := by
  induction d with
  | done b => exact hf b hd
  | halt b => exact hd
  | ask q next ih => exact fun a => ih a (hd a)

/-- Every dialogue has some result. -/
theorem yields_true (d : Dialogue Q A α) : d.Yields fun _ => True := by
  induction d with
  | done a => exact trivial
  | halt b => exact trivial
  | ask q next ih => exact ih

/-- What holds of every result holds of one that fits the rules. -/
theorem Follows.and_yields {R : Rules Q A Γ} {post : Γ → α → Prop} {P : α → Prop} {g : Γ}
    {d : Dialogue Q A α} (h : d.Follows R post g) (hP : d.Yields P) :
    d.Follows R (fun g a => post g a ∧ P a) g := by
  induction d generalizing g with
  | done a => exact ⟨h, hP⟩
  | halt b => exact h
  | ask q next ih => exact ⟨h.1, fun a ha => ih a (h.2 a ha) (hP a)⟩

/-! ## Dialogues that may fail -/

/-- Joining dialogues that may fail: the second part runs when the first one does not. -/
theorem run_bind_except (x : ExceptT ε (Dialogue Q A) β) (f : β → ExceptT ε (Dialogue Q A) α) :
    (x >>= f).run = Dialogue.bind x.run fun
      | .ok b => (f b).run
      | .error e => .done (.error e) := by
  show Dialogue.bind x.run _ = _
  congr 1
  funext r
  cases r <;> rfl

/-- Joining a dialogue that never fails with one that may. -/
theorem run_lift_bind (d : Dialogue Q A β) (f : β → ExceptT ε (Dialogue Q A) α) :
    (ExceptT.lift d >>= f).run = d.bind fun b => (f b).run :=
  Dialogue.bind_assoc d _ _

/-- The result of joined dialogues that may fail is that of the second one, or a failure. -/
theorem Yields.bind_except {P : Except ε α → Prop} {S : β → Prop}
    {x : ExceptT ε (Dialogue Q A) β} {f : β → ExceptT ε (Dialogue Q A) α}
    (hx : x.run.Yields fun r => ∀ b, r = .ok b → S b) (he : ∀ e, P (.error e))
    (hf : ∀ b, S b → (f b).run.Yields P) : (x >>= f).run.Yields P := by
  rw [run_bind_except]
  refine hx.bind fun r hr => ?_
  cases r with
  | ok b => exact hf b (hr b rfl)
  | error e => exact he e

/-- The same when nothing need be known of the first result. -/
theorem yields_after {P : Except ε α → Prop} {x : ExceptT ε (Dialogue Q A) β}
    {f : β → ExceptT ε (Dialogue Q A) α} (he : ∀ e, P (.error e)) (hf : ∀ b, (f b).run.Yields P) :
    (x >>= f).run.Yields P := by
  have hx : x.run.Yields fun r => ∀ b, r = .ok b → True :=
    (yields_true x.run).mono fun _ _ _ _ => trivial
  exact hx.bind_except he fun b _ => hf b

/-! ## Fewer and more rounds -/

/-- The second dialogue is the first one, except that it may go on where the first one has used up
its rounds. -/
inductive Within : Dialogue Q A α → Dialogue Q A α → Prop where
  /-- The rounds are used up. -/
  | out (d : Dialogue Q A α) : Within (.halt .outOfRounds) d
  /-- Both end. -/
  | done (a : α) : Within (.done a) (.done a)
  /-- Both break off. -/
  | halt (b : Breakdown) : Within (.halt b) (.halt b)
  /-- Both ask the same, and the rest is related whatever is answered. -/
  | ask (q : Q) {next next' : A q → Dialogue Q A α} (h : ∀ a, Within (next a) (next' a)) :
    Within (.ask q next) (.ask q next')

namespace Within

/-- A dialogue is within itself. -/
theorem refl (d : Dialogue Q A α) : d.Within d := by
  induction d with
  | done a => exact .done a
  | halt b => exact .halt b
  | ask q next ih => exact .ask q ih

/-- Joining keeps the relation. -/
theorem bind {d d' : Dialogue Q A β} {f f' : β → Dialogue Q A α} (h : d.Within d')
    (hf : ∀ b, (f b).Within (f' b)) : (d.bind f).Within (d'.bind f') := by
  induction h with
  | out d' => exact .out _
  | done b => exact hf b
  | halt b => exact .halt b
  | ask q _ ih => exact .ask q ih

/-- Joining keeps the relation, also when the parts may fail. -/
theorem bind_except {x x' : ExceptT ε (Dialogue Q A) β} {f f' : β → ExceptT ε (Dialogue Q A) α}
    (h : x.run.Within x'.run) (hf : ∀ b, (f b).run.Within (f' b).run) :
    (x >>= f).run.Within (x' >>= f').run := by
  rw [run_bind_except, run_bind_except]
  refine h.bind fun r => ?_
  cases r with
  | ok b => exact hf b
  | error e => exact .done _

/-- After a failure it does not matter how the dialogue would have gone on. -/
theorem throw_bind (e : ε) (f f' : β → ExceptT ε (Dialogue Q A) α) :
    (throw e >>= f).run.Within (throw e >>= f').run := by
  rw [run_bind_except, run_bind_except]
  exact .done _

/-- A run that does not use up its rounds is the same with more. -/
theorem run_eq {d d' : Dialogue Q A α} (h : d.Within d') (answer : (q : Q) → σ → A q × σ) (s : σ)
    (hs : (d.run answer s).1 ≠ .error .outOfRounds) : d'.run answer s = d.run answer s := by
  induction h generalizing s with
  | out d' => exact absurd rfl hs
  | done a => rfl
  | halt b => rfl
  | ask q _ ih => exact ih _ _ hs

end Within

end Dialogue

end Autoplay
