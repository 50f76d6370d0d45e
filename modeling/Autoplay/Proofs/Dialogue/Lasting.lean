import Autoplay.Proofs.Dialogue.Transcript

/-!
# Rounds that are not used up

The rounds that a dialogue is allowed are no reason to break off for one that asks something in each
of them, until as many answers have come. `Dialogue.Lasts` says so of a dialogue that breaks off for
other reasons, too. The main statement, `Lasts.bind_yields`, is about joined dialogues.
-/

namespace Autoplay

namespace Dialogue

variable {Q : Type} {A : Q → Type} {α β ε : Type} {P : Breakdown → Prop} {n : Nat}

/-- A dialogue breaks off for certain reasons only, apart from rounds that are used up; and they are
not before a number of answers. -/
def Lasts (P : Breakdown → Prop) : Dialogue Q A α → Nat → Prop
  | .done _, _ => True
  | .halt b, n => P b ∨ b = .outOfRounds ∧ n = 0
  | .ask _ next, n => ∀ a, Lasts P (next a) (n - 1)

/-- What does not break off for other reasons lasts. -/
theorem Halts.lasts {d : Dialogue Q A α} (h : d.Halts P) (n : Nat) : d.Lasts P n := by
  induction d generalizing n with
  | done a => exact trivial
  | halt b => exact .inl h
  | ask q next ih => exact fun a => ih a (h a) (n - 1)

/-- What lasts breaks off for those reasons only, or as its rounds are used up. -/
theorem Lasts.halts {d : Dialogue Q A α} (h : d.Lasts P n) :
    d.Halts fun b => b = .outOfRounds ∨ P b := by
  induction d generalizing n with
  | done a => exact trivial
  | halt b => exact h.symm.imp_left And.left
  | ask q next ih => exact fun a => ih a (h a)

/-- If it breaks off as its rounds are used up, that many answers have come. -/
theorem Lasts.of_goes {d : Dialogue Q A α} (h : d.Lasts P n) {t : List (Exchange Q A)}
    {b : Breakdown} (hd : d.Goes t (.error b)) : P b ∨ b = .outOfRounds ∧ n ≤ t.length := by
  induction d generalizing n t with
  | done a => exact nomatch hd.2
  | halt b' =>
    obtain ⟨rfl, hb⟩ := hd
    cases hb
    exact h.imp_right fun ⟨hout, hn⟩ => ⟨hout, Nat.le_of_eq hn⟩
  | ask q next ih =>
    obtain ⟨a, rest, rfl, hd⟩ := hd
    refine (ih a (h a) hd).imp_right fun ⟨hout, hn⟩ => ⟨hout, ?_⟩
    rw [List.length_cons]
    omega

/-- Fewer answers may be taken for granted, and more reasons allowed for. -/
theorem Lasts.mono {d : Dialogue Q A α} (h : d.Lasts P n) {P' : Breakdown → Prop} {m : Nat}
    (hP : ∀ b, P b → P' b) (hm : m ≤ n) : d.Lasts P' m := by
  induction d generalizing n m with
  | done a => exact trivial
  | halt b => exact h.imp (hP b) fun ⟨hb, hn⟩ => ⟨hb, Nat.eq_zero_of_le_zero (hn ▸ hm)⟩
  | ask q next ih => exact fun a => ih a (h a) (Nat.sub_le_sub_right hm 1)

/-- Joined dialogues last if both do, the second one for each result that the first one can have. -/
theorem Lasts.bind_yields {S : β → Prop} {d : Dialogue Q A β} {f : β → Dialogue Q A α}
    (hd : d.Lasts P n) (hS : d.Yields S) (hf : ∀ b, S b → (f b).Lasts P n) :
    (d.bind f).Lasts P n := by
  induction d generalizing n with
  | done b => exact hf b hS
  | halt b => exact hd
  | ask q next ih =>
    exact fun a => ih a (hd a) (hS a) fun b hb => (hf b hb).mono (fun _ => id) (Nat.sub_le n 1)

/-- The same for all results. -/
theorem Lasts.bind {d : Dialogue Q A β} {f : β → Dialogue Q A α} (hd : d.Lasts P n)
    (hf : ∀ b, (f b).Lasts P n) : (d.bind f).Lasts P n :=
  hd.bind_yields d.yields_true fun b _ => hf b

/-- Joined dialogues that may fail, for each result that the first one can have. -/
theorem Lasts.bind_except_yields {S : β → Prop} {x : ExceptT ε (Dialogue Q A) β}
    {f : β → ExceptT ε (Dialogue Q A) α} (hx : x.run.Lasts P n)
    (hS : x.run.Yields fun r => ∀ b, r = .ok b → S b) (hf : ∀ b, S b → (f b).run.Lasts P n) :
    (x >>= f).run.Lasts P n := by
  rw [run_bind_except]
  refine hx.bind_yields hS fun r hr => ?_
  cases r with
  | ok b => exact hf b (hr b rfl)
  | error e => exact trivial

/-- Joined dialogues that may fail. -/
theorem Lasts.bind_except {x : ExceptT ε (Dialogue Q A) β} {f : β → ExceptT ε (Dialogue Q A) α}
    (hx : x.run.Lasts P n) (hf : ∀ b, (f b).run.Lasts P n) : (x >>= f).run.Lasts P n := by
  rw [run_bind_except]
  refine hx.bind fun r => ?_
  cases r with
  | ok b => exact hf b
  | error e => exact trivial

end Dialogue

end Autoplay
