import Autoplay.Proofs.Dialogue.Rules

/-!
# Transcripts of dialogues

What was asked and answered when a dialogue was played, in order. `Dialogue.Goes` says that a
dialogue can go as a transcript says and end in a certain way, whatever gives the answers. Main
statements: every run goes as its transcript says (`goes_transcript`), a joined dialogue goes
through its first part and then the second one (`goes_bind`), and a dialogue that is indifferent to
a change of its answers asks the same and ends the same when they are changed
(`Indifferent.run_change`).
-/

namespace Autoplay

/-- A request and its answer. -/
abbrev Exchange (Q : Type) (A : Q → Type) : Type := (q : Q) × A q

namespace Dialogue

variable {Q : Type} {A : Q → Type} {α β ε σ : Type}

/-- What is asked and answered in a run. -/
def transcript (answer : (q : Q) → σ → A q × σ) : Dialogue Q A α → σ → List (Exchange Q A)
  | .done _, _ => []
  | .halt _, _ => []
  | .ask q next, s => ⟨q, (answer q s).1⟩ :: transcript answer (next (answer q s).1) (answer q s).2

/-- With these answers, a dialogue asks this and nothing else, and ends so. -/
def Goes : Dialogue Q A α → List (Exchange Q A) → Except Breakdown α → Prop
  | .done a, t, r => t = [] ∧ r = .ok a
  | .halt b, t, r => t = [] ∧ r = .error b
  | .ask q next, t, r => ∃ a rest, t = ⟨q, a⟩ :: rest ∧ Goes (next a) rest r

/-- A run goes as its transcript says. -/
theorem goes_transcript (answer : (q : Q) → σ → A q × σ) (d : Dialogue Q A α) (s : σ) :
    d.Goes (d.transcript answer s) (d.run answer s).1 := by
  induction d generalizing s with
  | done a => exact ⟨rfl, rfl⟩
  | halt b => exact ⟨rfl, rfl⟩
  | ask q next ih => exact ⟨_, _, rfl, ih _ _⟩

section

variable {d : Dialogue Q A β} {f : β → Dialogue Q A α} {t : List (Exchange Q A)}
  {r : Except Breakdown α}

/-- A joined dialogue goes through its first part and then the second one, unless the first one
breaks off. -/
theorem goes_bind : (d.bind f).Goes t r ↔
    (∃ b t₁ t₂, t = t₁ ++ t₂ ∧ d.Goes t₁ (.ok b) ∧ (f b).Goes t₂ r) ∨
      ∃ b, r = .error b ∧ d.Goes t (.error b) := by
  induction d generalizing t with
  | done b =>
    constructor
    · exact fun h => .inl ⟨b, [], t, rfl, ⟨rfl, rfl⟩, h⟩
    · rintro (⟨b', t₁, t₂, rfl, ⟨rfl, hb⟩, h⟩ | ⟨b', -, -, hb⟩)
      · cases hb
        exact h
      · cases hb
  | halt b =>
    constructor
    · rintro ⟨rfl, rfl⟩
      exact .inr ⟨b, rfl, rfl, rfl⟩
    · rintro (⟨b', t₁, t₂, -, ⟨-, hb⟩, -⟩ | ⟨b', rfl, rfl, hb⟩)
      · cases hb
      · cases hb
        exact ⟨rfl, rfl⟩
  | ask q next ih =>
    -- The first exchange is the same on both sides, and the rest is split by the hypothesis.
    constructor
    · rintro ⟨a, rest, rfl, h⟩
      rcases (ih a).1 h with ⟨b, t₁, t₂, rfl, h₁, h₂⟩ | ⟨b, rfl, hb⟩
      · exact .inl ⟨b, ⟨q, a⟩ :: t₁, t₂, rfl, ⟨a, t₁, rfl, h₁⟩, h₂⟩
      · exact .inr ⟨b, rfl, a, rest, rfl, hb⟩
    · rintro (⟨b, t₁, t₂, rfl, ⟨a, rest, rfl, h₁⟩, h₂⟩ | ⟨b, rfl, a, rest, rfl, h⟩)
      · exact ⟨a, rest ++ t₂, rfl, (ih a).2 (.inl ⟨b, rest, t₂, rfl, h₁, h₂⟩)⟩
      · exact ⟨a, rest, rfl, (ih a).2 (.inr ⟨b, rfl, h⟩)⟩

/-- A joined dialogue that has a result went through both parts. -/
theorem goes_bind_ok {a : α} : (d.bind f).Goes t (.ok a) ↔
    ∃ b t₁ t₂, t = t₁ ++ t₂ ∧ d.Goes t₁ (.ok b) ∧ (f b).Goes t₂ (.ok a) := by
  rw [goes_bind]
  exact ⟨fun h => h.resolve_right fun ⟨_, hb, _⟩ => (nomatch hb), .inl⟩

/-- What holds of every result holds of that of a transcript. -/
theorem Yields.of_goes {P : β → Prop} {b : β} (hd : d.Yields P) (h : d.Goes t (.ok b)) : P b := by
  induction d generalizing t with
  | done b' =>
    obtain ⟨-, hb⟩ := h
    cases hb
    exact hd
  | halt b' => exact nomatch h.2
  | ask q next ih =>
    obtain ⟨a, rest, -, h⟩ := h
    exact ih a (hd a) h

end

/-- Joined dialogues that may fail go through the first part and, if it does not fail, the second
one. -/
theorem goes_bind_except {x : ExceptT ε (Dialogue Q A) β} {f : β → ExceptT ε (Dialogue Q A) α}
    {t : List (Exchange Q A)} {r : Except ε α} : (x >>= f).run.Goes t (.ok r) ↔
      (∃ b t₁ t₂, t = t₁ ++ t₂ ∧ x.run.Goes t₁ (.ok (.ok b)) ∧ (f b).run.Goes t₂ (.ok r)) ∨
        ∃ e, r = .error e ∧ x.run.Goes t (.ok (.error e)) := by
  rw [run_bind_except, goes_bind_ok]
  constructor
  · rintro ⟨b | b, t₁, t₂, rfl, h₁, h₂⟩
    · obtain ⟨rfl, hr⟩ := h₂
      cases hr
      exact .inr ⟨b, rfl, by rwa [List.append_nil]⟩
    · exact .inl ⟨b, t₁, t₂, rfl, h₁, h₂⟩
  · rintro (⟨b, t₁, t₂, rfl, h₁, h₂⟩ | ⟨e, rfl, h⟩)
    · exact ⟨.ok b, t₁, t₂, rfl, h₁, h₂⟩
    · exact ⟨.error e, t, [], (List.append_nil t).symm, h, rfl, rfl⟩

/-- The same with breakdowns: the second part is gone through, or the first one fails or breaks
off. -/
theorem goes_bind_run {x : ExceptT ε (Dialogue Q A) β} {f : β → ExceptT ε (Dialogue Q A) α}
    {t : List (Exchange Q A)} {r : Except Breakdown (Except ε α)} : (x >>= f).run.Goes t r ↔
      (∃ b t₁ t₂, t = t₁ ++ t₂ ∧ x.run.Goes t₁ (.ok (.ok b)) ∧ (f b).run.Goes t₂ r) ∨
        (∃ e, r = .ok (.error e) ∧ x.run.Goes t (.ok (.error e))) ∨
        ∃ b, r = .error b ∧ x.run.Goes t (.error b) := by
  rw [run_bind_except, goes_bind]
  constructor
  · rintro (⟨b | b, t₁, t₂, rfl, h₁, h₂⟩ | h)
    · obtain ⟨rfl, rfl⟩ := h₂
      exact .inr (.inl ⟨b, rfl, by rwa [List.append_nil]⟩)
    · exact .inl ⟨b, t₁, t₂, rfl, h₁, h₂⟩
    · exact .inr (.inr h)
  · rintro (⟨b, t₁, t₂, rfl, h₁, h₂⟩ | ⟨e, rfl, h⟩ | h)
    · exact .inl ⟨.ok b, t₁, t₂, rfl, h₁, h₂⟩
    · exact .inl ⟨.error e, t, [], (List.append_nil t).symm, h, rfl, rfl⟩
    · exact .inr h

/-- The same when there is a result at the end. -/
theorem goes_bind_except_ok {x : ExceptT ε (Dialogue Q A) β} {f : β → ExceptT ε (Dialogue Q A) α}
    {t : List (Exchange Q A)} {a : α} : (x >>= f).run.Goes t (.ok (.ok a)) ↔
      ∃ b t₁ t₂, t = t₁ ++ t₂ ∧ x.run.Goes t₁ (.ok (.ok b)) ∧ (f b).run.Goes t₂ (.ok (.ok a)) := by
  rw [goes_bind_except]
  exact ⟨fun h => h.resolve_right fun ⟨_, he, _⟩ => (nomatch he), .inl⟩

/-- Whatever a dialogue is answered, its transcript and its result have a property. -/
def Tells (P : List (Exchange Q A) → α → Prop) (d : Dialogue Q A α) : Prop :=
  ∀ t a, d.Goes t (.ok a) → P t a

/-- Joined dialogues that may fail: what the first part tells when it fails, and what both tell
otherwise. -/
theorem tells_bind_except {x : ExceptT ε (Dialogue Q A) β} {f : β → ExceptT ε (Dialogue Q A) α}
    {P : List (Exchange Q A) → Except ε α → Prop}
    (hx : ∀ t e, x.run.Goes t (.ok (.error e)) → P t (.error e))
    (hf : ∀ t b, x.run.Goes t (.ok (.ok b)) → (f b).run.Tells fun u r => P (t ++ u) r) :
    (x >>= f).run.Tells P := by
  intro t r h
  rcases goes_bind_except.1 h with ⟨b, t₁, t₂, rfl, h₁, h₂⟩ | ⟨e, rfl, he⟩
  · exact hf t₁ b h₁ t₂ r h₂
  · exact hx t e he

/-! ## What a dialogue asks -/

/-- Everything that a dialogue asks has a property, whatever it is answered. -/
def Asks (P : Q → Prop) : Dialogue Q A α → Prop
  | .done _ => True
  | .halt _ => True
  | .ask q next => P q ∧ ∀ a, Asks P (next a)

/-- Joined dialogues ask what their parts ask. -/
theorem Asks.bind {P : Q → Prop} {d : Dialogue Q A β} {f : β → Dialogue Q A α} (hd : d.Asks P)
    (hf : ∀ b, (f b).Asks P) : (d.bind f).Asks P := by
  induction d with
  | done b => exact hf b
  | halt b => exact trivial
  | ask q next ih => exact ⟨hd.1, fun a => ih a (hd.2 a)⟩

/-- Joined dialogues that may fail ask what their parts ask. -/
theorem Asks.bind_except {P : Q → Prop} {x : ExceptT ε (Dialogue Q A) β}
    {f : β → ExceptT ε (Dialogue Q A) α} (hx : x.run.Asks P) (hf : ∀ b, (f b).run.Asks P) :
    (x >>= f).run.Asks P := by
  rw [run_bind_except]
  refine hx.bind fun r => ?_
  cases r with
  | ok b => exact hf b
  | error e => exact trivial

/-- What holds of everything that is asked holds of the requests of a transcript. -/
theorem Asks.of_goes {P : Q → Prop} {d : Dialogue Q A α} (hd : d.Asks P)
    {t : List (Exchange Q A)} {r : Except Breakdown α} (h : d.Goes t r) : ∀ x ∈ t, P x.1 := by
  induction d generalizing t with
  | done a =>
    obtain ⟨rfl, -⟩ := h
    exact nofun
  | halt b =>
    obtain ⟨rfl, -⟩ := h
    exact nofun
  | ask q next ih =>
    obtain ⟨a, rest, rfl, h⟩ := h
    exact List.forall_mem_cons.2 ⟨hd.1, ih a (hd.2 a) h⟩

/-! ## What a transcript is made of -/

/-- A kind of transcripts to which the empty one and all joined ones belong. -/
structure Joined (C : List (Exchange Q A) → Prop) : Prop where
  /-- The empty one. -/
  nil : C []
  /-- Joined ones. -/
  append : ∀ t u, C t → C u → C (t ++ u)

/-- A transcript belongs to such a kind if each of its exchanges does. -/
theorem Joined.of_forall {C : List (Exchange Q A) → Prop} (hC : Joined C) {t : List (Exchange Q A)}
    (h : ∀ x ∈ t, C [x]) : C t := by
  induction t with
  | nil => exact hC.nil
  | cons x t ih =>
    obtain ⟨hx, ht⟩ := List.forall_mem_cons.1 h
    exact hC.append [x] t hx (ih ht)

/-- However a dialogue goes, its transcript is of a kind. -/
def Makes (C : List (Exchange Q A) → Prop) (d : Dialogue Q A α) : Prop := ∀ t r, d.Goes t r → C t

section

variable {C : List (Exchange Q A) → Prop} (hC : Joined C)

include hC

/-- A result at once. -/
theorem makes_done (a : α) : (done a : Dialogue Q A α).Makes C := by
  rintro t r ⟨rfl, -⟩
  exact hC.nil

/-- A breakdown at once. -/
theorem makes_halt (b : Breakdown) : (halt b : Dialogue Q A α).Makes C := by
  rintro t r ⟨rfl, -⟩
  exact hC.nil

omit hC in
/-- A request. -/
theorem makes_request {q : Q} (hq : ∀ a, C [⟨q, a⟩]) : (request q : Dialogue Q A (A q)).Makes C := by
  rintro t r ⟨a, rest, rfl, rfl, -⟩
  exact hq a

/-- Joined dialogues. -/
theorem Makes.bind {d : Dialogue Q A β} {f : β → Dialogue Q A α} (hd : d.Makes C)
    (hf : ∀ b, (f b).Makes C) : (d.bind f).Makes C := by
  intro t r h
  obtain ⟨b, t₁, t₂, rfl, h₁, h₂⟩ | ⟨b, -, h⟩ := goes_bind.1 h
  · exact hC.append t₁ t₂ (hd t₁ _ h₁) (hf b t₂ r h₂)
  · exact hd t _ h

/-- Joined dialogues that may fail. -/
theorem Makes.bind_except {x : ExceptT ε (Dialogue Q A) β} {f : β → ExceptT ε (Dialogue Q A) α}
    (hx : x.run.Makes C) (hf : ∀ b, (f b).run.Makes C) : (x >>= f).run.Makes C := by
  rw [run_bind_except]
  refine hx.bind hC fun r => ?_
  cases r with
  | ok b => exact hf b
  | error e => exact makes_done hC _

/-- A dialogue each of whose exchanges is of the kind. -/
theorem Asks.makes {P : Q → Prop} {d : Dialogue Q A α} (hd : d.Asks P)
    (hP : ∀ x : Exchange Q A, P x.1 → C [x]) : d.Makes C :=
  fun _ _ h => hC.of_forall fun x hx => hP x (hd.of_goes h x hx)

end

/-! ## How a dialogue breaks off -/

/-- A dialogue breaks off in certain ways only, whatever it is answered. -/
def Halts (P : Breakdown → Prop) : Dialogue Q A α → Prop
  | .done _ => True
  | .halt b => P b
  | .ask _ next => ∀ a, Halts P (next a)

/-- More ways of breaking off may be allowed. -/
theorem Halts.mono {P P' : Breakdown → Prop} {d : Dialogue Q A α} (h : d.Halts P)
    (hP : ∀ b, P b → P' b) : d.Halts P' := by
  induction d with
  | done a => exact trivial
  | halt b => exact hP b h
  | ask q next ih => exact fun a => ih a (h a)

/-- Joined dialogues break off as their parts do; the second part needs to be looked at only after
results that the first one can have. -/
theorem Halts.bind_yields {P : Breakdown → Prop} {S : β → Prop} {d : Dialogue Q A β}
    {f : β → Dialogue Q A α} (hd : d.Halts P) (hS : d.Yields S) (hf : ∀ b, S b → (f b).Halts P) :
    (d.bind f).Halts P := by
  induction d with
  | done b => exact hf b hS
  | halt b => exact hd
  | ask q next ih => exact fun a => ih a (hd a) (hS a)

/-- Joined dialogues break off as their parts do. -/
theorem Halts.bind {P : Breakdown → Prop} {d : Dialogue Q A β} {f : β → Dialogue Q A α}
    (hd : d.Halts P) (hf : ∀ b, (f b).Halts P) : (d.bind f).Halts P :=
  hd.bind_yields d.yields_true fun b _ => hf b

/-- Joined dialogues that may fail break off as their parts do. -/
theorem Halts.bind_except {P : Breakdown → Prop} {x : ExceptT ε (Dialogue Q A) β}
    {f : β → ExceptT ε (Dialogue Q A) α} (hx : x.run.Halts P) (hf : ∀ b, (f b).run.Halts P) :
    (x >>= f).run.Halts P := by
  rw [run_bind_except]
  refine hx.bind fun r => ?_
  cases r with
  | ok b => exact hf b
  | error e => exact trivial

/-- What holds of every way in which it breaks off holds of that of a transcript. -/
theorem Halts.of_goes {P : Breakdown → Prop} {d : Dialogue Q A α} (hd : d.Halts P)
    {t : List (Exchange Q A)} {b : Breakdown} (h : d.Goes t (.error b)) : P b := by
  induction d generalizing t with
  | done a => exact nomatch h.2
  | halt b' =>
    obtain ⟨-, hb⟩ := h
    cases hb
    exact hd
  | ask q next ih =>
    obtain ⟨a, rest, -, h⟩ := h
    exact ih a (hd a) h

/-! ## Answers that make no difference -/

/-- A dialogue goes on in the same way whether an answer is changed or not. -/
def Indifferent (change : (q : Q) → A q → A q) : Dialogue Q A α → Prop
  | .done _ => True
  | .halt _ => True
  | .ask q next => (∀ a, next (change q a) = next a) ∧ ∀ a, Indifferent change (next a)

section

variable {change : (q : Q) → A q → A q}

/-- Joined dialogues are indifferent to what both parts are indifferent to. -/
theorem Indifferent.bind {d : Dialogue Q A β} {f : β → Dialogue Q A α}
    (hd : d.Indifferent change) (hf : ∀ b, (f b).Indifferent change) :
    (d.bind f).Indifferent change := by
  induction d with
  | done b => exact hf b
  | halt b => exact trivial
  | ask q next ih => exact ⟨fun a => congrArg (·.bind f) (hd.1 a), fun a => ih a (hd.2 a)⟩

/-- Surroundings with some answers changed; the requests are counted, and `chosen` says of which
ones the answers are changed. -/
def changed (change : (q : Q) → A q → A q) (chosen : Nat → Bool)
    (answer : (q : Q) → σ → A q × σ) (q : Q) (s : σ × Nat) : A q × (σ × Nat) :=
  (if chosen s.2 then change q (answer q s.1).1 else (answer q s.1).1, ((answer q s.1).2, s.2 + 1))

/-- The requests of a run. -/
def requests (answer : (q : Q) → σ → A q × σ) (d : Dialogue Q A α) (s : σ) : List Q :=
  (d.transcript answer s).map Sigma.fst

/-- A dialogue asks the same and ends the same when answers are changed that make no difference to
it, and the surroundings change in the same way. -/
theorem Indifferent.run_change {d : Dialogue Q A α} (h : d.Indifferent change)
    (chosen : Nat → Bool) (answer : (q : Q) → σ → A q × σ) (s : σ) (n : Nat) :
    d.requests (changed change chosen answer) (s, n) = d.requests answer s ∧
      (d.run (changed change chosen answer) (s, n)).1 = (d.run answer s).1 ∧
      (d.run (changed change chosen answer) (s, n)).2.1 = (d.run answer s).2 := by
  induction d generalizing s n with
  | done a => exact ⟨rfl, rfl, rfl⟩
  | halt b => exact ⟨rfl, rfl, rfl⟩
  | ask q next ih =>
    -- Whatever was chosen, the dialogue goes on as after the answer itself.
    have hnext : next (changed change chosen answer q (s, n)).1 = next (answer q s).1 := by
      show next (if chosen n then change q (answer q s).1 else (answer q s).1) = _
      split
      · exact h.1 _
      · rfl
    obtain ⟨hasked, hended⟩ := ih _ (h.2 (answer q s).1) (answer q s).2 (n + 1)
    let answer' := changed change chosen answer
    have hrun : (ask q next).run answer' (s, n) =
        (next (answer q s).1).run answer' ((answer q s).2, n + 1) :=
      congrArg (fun d : Dialogue Q A α => d.run answer' ((answer q s).2, n + 1)) hnext
    have hrequests : (ask q next).requests answer' (s, n) =
        q :: (next (answer q s).1).requests answer' ((answer q s).2, n + 1) :=
      congrArg (fun d : Dialogue Q A α => q :: d.requests answer' ((answer q s).2, n + 1)) hnext
    rw [hrun, hrequests, hasked]
    exact ⟨rfl, hended⟩

end

end Dialogue

end Autoplay
