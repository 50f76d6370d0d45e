/-!
# Dialogues

A program that talks to its surroundings is a tree: it is done, or it asks something and goes on in
a way that depends on the answer. The kind of answer depends on the request. Dialogues are joined
end to end, and a run plays one against surroundings that answer each request and may change by it.
The main statement, `run_bind`, says that a run of two joined dialogues is a run of the first and
then one of the second.
-/

namespace Autoplay

/-- Why a dialogue breaks off. -/
inductive Breakdown where
  /-- The rounds that it was allowed are used up. -/
  | outOfRounds
  /-- A length of time is longer than any that can be measured. -/
  | overflow
deriving DecidableEq, Repr

/-- A program that asks requests of type `Q`; `A q` is the type of answers to `q`. -/
inductive Dialogue (Q : Type) (A : Q → Type) (α : Type) where
  /-- The end, with a result. -/
  | done (a : α)
  /-- The end, without one. -/
  | halt (b : Breakdown)
  /-- A request, and how it goes on after each answer. -/
  | ask (q : Q) (next : A q → Dialogue Q A α)

namespace Dialogue

variable {Q : Type} {A : Q → Type} {α β γ σ : Type}

/-- Goes on with another dialogue, which may depend on the result of the first. -/
def bind : Dialogue Q A α → (α → Dialogue Q A β) → Dialogue Q A β
  | .done a, f => f a
  | .halt b, _ => .halt b
  | .ask q next, f => .ask q fun a => bind (next a) f

instance : Monad (Dialogue Q A) where
  pure := .done
  bind := bind

/-- The dialogue that asks one thing. -/
def request (q : Q) : Dialogue Q A (A q) := .ask q .done

/-- Meets each request by a dialogue with other surroundings. -/
def expand {R : Type} {B : R → Type} (meet : (q : Q) → Dialogue R B (A q)) :
    Dialogue Q A α → Dialogue R B α
  | .done a => .done a
  | .halt b => .halt b
  | .ask q next => (meet q).bind fun a => expand meet (next a)

/-- Plays a dialogue against surroundings. -/
def run (answer : (q : Q) → σ → A q × σ) : Dialogue Q A α → σ → Except Breakdown α × σ
  | .done a, s => (.ok a, s)
  | .halt b, s => (.error b, s)
  | .ask q next, s =>
    let (a, s) := answer q s
    run answer (next a) s

/-- Going on with nothing changes nothing. -/
theorem bind_done (d : Dialogue Q A α) : d.bind .done = d := by
  induction d with
  | done a => rfl
  | halt b => rfl
  | ask q next ih => simp only [bind, ih]

/-- Joining dialogues is associative. -/
theorem bind_assoc (d : Dialogue Q A α) (f : α → Dialogue Q A β) (g : β → Dialogue Q A γ) :
    (d.bind f).bind g = d.bind fun a => (f a).bind g := by
  induction d with
  | done a => rfl
  | halt b => rfl
  | ask q next ih => simp only [bind, ih]

instance : LawfulMonad (Dialogue Q A) :=
  LawfulMonad.mk' _ bind_done (fun _ _ => rfl) bind_assoc

/-- A run of two joined dialogues is a run of the first and then one of the second. -/
theorem run_bind (answer : (q : Q) → σ → A q × σ) (d : Dialogue Q A α)
    (f : α → Dialogue Q A β) (s : σ) :
    (d.bind f).run answer s =
      match d.run answer s with
      | (.ok a, t) => (f a).run answer t
      | (.error b, t) => (.error b, t) := by
  induction d generalizing s with
  | done a => rfl
  | halt b => rfl
  | ask q next ih => exact ih _ _

end Dialogue

end Autoplay
