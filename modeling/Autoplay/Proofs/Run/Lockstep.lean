import Autoplay.Proofs.Dialogue.Transcript
import Autoplay.Proofs.Run.Chronicle

/-!
# Dialogues in lockstep

Two dialogues are in lockstep if they ask the same requests, whatever is answered, and their results
agree. In a free lockstep the waits may differ in length, and a dialogue may break off on its own.
Main statements: joined dialogues are in lockstep when their parts are (`Lockstep.bind`), dialogues
in strict lockstep run in the same way (`Lockstep.run_same`), and those in free lockstep keep the
same log if the length of a wait makes no difference to the surroundings (`Lockstep.run_free`).
-/

namespace Autoplay

variable {α β γ δ σ : Type}

/-- Two dialogues ask the same, and their results are related. In a free lockstep waits may differ
in length, and either one may break off on its own. -/
inductive Lockstep (free : Prop) (R : α → β → Prop) : Talk α → Talk β → Prop where
  /-- Both end. -/
  | done {a : α} {b : β} (h : R a b) : Lockstep free R (.done a) (.done b)
  /-- Both break off. -/
  | halt (b : Breakdown) : Lockstep free R (.halt b) (.halt b)
  /-- Both ask the same, and the rest is in lockstep whatever is answered. -/
  | ask (q : Request) {next : q.Answer → Talk α} {next' : q.Answer → Talk β}
    (h : ∀ a, Lockstep free R (next a) (next' a)) :
    Lockstep free R (Dialogue.ask q next) (Dialogue.ask q next')
  /-- Both wait, not for equally long. -/
  | pause (hfree : free) (d d' : Duration) {next : Bool → Talk α} {next' : Bool → Talk β}
    (h : ∀ told, Lockstep free R (next told) (next' told)) :
    Lockstep free R (Dialogue.ask (.pause d) next) (Dialogue.ask (.pause d') next')
  /-- The first one breaks off. -/
  | left (hfree : free) (b : Breakdown) (e : Talk β) : Lockstep free R (.halt b) e
  /-- The second one breaks off. -/
  | right (hfree : free) (d : Talk α) (b : Breakdown) : Lockstep free R d (.halt b)

/-- Surroundings to which it makes no difference how long a wait is. -/
def unhurried (reply : (q : Request) → σ → q.Answer × σ) : (q : Request) → σ → q.Answer × σ
  | .pause _, s => reply (.pause .zero) s
  | q, s => reply q s

namespace Lockstep

variable {free : Prop} {R : α → β → Prop} {S : γ → δ → Prop} {d : Talk α} {e : Talk β}

/-- A dialogue is in lockstep with itself. -/
theorem refl (d : Talk α) : Lockstep free Eq d d := by
  induction d with
  | done a => exact .done rfl
  | halt b => exact .halt b
  | ask q next ih => exact .ask q ih

/-- Joined dialogues are in lockstep when their parts are. -/
theorem bind {f : α → Talk γ} {g : β → Talk δ} (h : Lockstep free R d e)
    (hf : ∀ a b, R a b → Lockstep free S (f a) (g b)) : Lockstep free S (d.bind f) (e.bind g) := by
  induction h with
  | done hab => exact hf _ _ hab
  | halt b => exact .halt b
  | ask q _ ih => exact .ask q ih
  | pause hfree d d' _ ih => exact .pause hfree d d' ih
  | left hfree b e => exact .left hfree b _
  | right hfree d b => exact .right hfree _ b

/-! ## Runs -/

/-- Dialogues in strict lockstep run in the same way in any surroundings. -/
theorem run_same (h : Lockstep False R d e) (answer : (q : Request) → σ → q.Answer × σ) (s : σ) :
    d.transcript answer s = e.transcript answer s ∧
      (d.run answer s).2 = (e.run answer s).2 ∧
      ((∃ b, (d.run answer s).1 = .error b ∧ (e.run answer s).1 = .error b) ∨
        ∃ a b, (d.run answer s).1 = .ok a ∧ (e.run answer s).1 = .ok b ∧ R a b) := by
  induction h generalizing s with
  | done hab => exact ⟨rfl, rfl, .inr ⟨_, _, rfl, rfl, hab⟩⟩
  | halt b => exact ⟨rfl, rfl, .inl ⟨b, rfl, rfl⟩⟩
  | ask q _ ih =>
    obtain ⟨htranscript, hrun⟩ := ih (answer q s).1 (answer q s).2
    exact ⟨congrArg (_ :: ·) htranscript, hrun⟩
  | pause hfree | left hfree | right hfree => exact hfree.elim

/-- Dialogues in free lockstep keep the same log, unless one of them breaks off; then its log is a
prefix of the other one's. -/
theorem run_free (h : Lockstep free R d e) (reply : (q : Request) → σ → q.Answer × σ)
    (stop : Option Nat) (c : Chronicle σ) :
    let (o, after) := d.run (Chronicle.answer (unhurried reply) stop) c
    let (o', after') := e.run (Chronicle.answer (unhurried reply) stop) c
    ((∃ b, o = .error b) ∧ after.log <+: after'.log) ∨
      ((∃ b, o' = .error b) ∧ after'.log <+: after.log) ∨
      ∃ a b, o = .ok a ∧ o' = .ok b ∧ R a b ∧ after = after' := by
  induction h generalizing c with
  | done hab => exact .inr (.inr ⟨_, _, rfl, rfl, hab, rfl⟩)
  | halt b => exact .inl ⟨⟨b, rfl⟩, List.prefix_rfl⟩
  | ask q _ ih => exact ih _ _
  | pause hfree d d' _ ih =>
    -- The two waits are answered in the same way.
    exact ih _ _
  | left hfree b e => exact .inl ⟨⟨b, rfl⟩, (Chronicle.run_grows _ stop e c).1⟩
  | right hfree d b => exact .inr (.inl ⟨⟨b, rfl⟩, (Chronicle.run_grows _ stop d c).1⟩)

end Lockstep

end Autoplay
