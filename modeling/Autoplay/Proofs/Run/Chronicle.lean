import Autoplay.Proofs.Run.Stopping

/-!
# Chronicles of a run

The surroundings of a run that keep a log: an entry for each command and each question about a
screen, what the run noted, and a stop that comes with a certain entry or never. How everything else
is answered is arbitrary. Main statement: a run that heeds the stop is a truncation of the run that
is never told to stop (`follows_truncates`), it returns (`Heeds.returns`), and a run that is never
told to stop does not end as if it was (`Heeds.unstopped`).
-/

namespace Autoplay

/-- The surroundings of a run, with what has happened so far. -/
structure Chronicle (σ : Type) where
  /-- What the answers depend on and change. -/
  around : σ
  /-- The commands and the questions about a screen, the first one first. -/
  log : List Request := []
  /-- What the run noted, the first note first. -/
  notes : List Note := []

namespace Chronicle

variable {σ α : Type}

/-- The decisions that were noted. -/
def decisions (c : Chronicle σ) : List Decision := c.notes.filterMap Note.decision?

/-- The names that were recognised. -/
def recognised (c : Chronicle σ) : List String := c.notes.filterMap Note.name?

/-- Whether the stop has come, if it comes with a certain entry; with none it comes at once. -/
def stopped (stop : Option Nat) (c : Chronicle σ) : Bool := stop.any (· ≤ c.log.length)

/-- Answers a request and keeps the log. A wait ends at once when the stop has come. -/
def answer (reply : (q : Request) → σ → q.Answer × σ) (stop : Option Nat) :
    (q : Request) → Chronicle σ → q.Answer × Chronicle σ
  | .stopRequested, c => (c.stopped stop, c)
  | .pause d, c =>
    if c.stopped stop then (true, c)
    else (false, { c with around := (reply (.pause d) c.around).2 })
  | .note n, c => ((), { c with notes := c.notes ++ [n] })
  | q, c =>
    let (a, around) := reply q c.around
    (a, { c with around, log := if q.isLogged then c.log ++ [q] else c.log })

section

variable (reply : (q : Request) → σ → q.Answer × σ) (stop : Option Nat)

/-- An answer keeps what has happened. -/
theorem answer_grows (q : Request) (c : Chronicle σ) :
    c.log <+: (answer reply stop q c).2.log ∧ c.notes <+: (answer reply stop q c).2.notes := by
  unfold answer
  split
  · exact ⟨List.prefix_rfl, List.prefix_rfl⟩
  · split <;> exact ⟨List.prefix_rfl, List.prefix_rfl⟩
  · exact ⟨List.prefix_rfl, List.prefix_append _ _⟩
  · refine ⟨?_, List.prefix_rfl⟩
    dsimp only
    split
    · exact List.prefix_append _ _
    · exact List.prefix_rfl

/-- A run keeps what has happened. -/
theorem run_grows (d : Talk α) (c : Chronicle σ) :
    c.log <+: (d.run (answer reply stop) c).2.log ∧
      c.notes <+: (d.run (answer reply stop) c).2.notes := by
  induction d generalizing c with
  | done a => exact ⟨List.prefix_rfl, List.prefix_rfl⟩
  | halt b => exact ⟨List.prefix_rfl, List.prefix_rfl⟩
  | ask q next ih =>
    obtain ⟨hlog, hnotes⟩ := answer_grows reply stop q c
    obtain ⟨hlog', hnotes'⟩ := ih (answer reply stop q c).1 (answer reply stop q c).2
    exact ⟨hlog.trans hlog', hnotes.trans hnotes'⟩

end

/-- Whether the answer to a request says to stop. -/
def tells (stop : Option Nat) (q : Request) (c : Chronicle σ) : Bool :=
  q.asksStop && c.stopped stop

variable {reply : (q : Request) → σ → q.Answer × σ} {stop : Option Nat} {c : Chronicle σ}

/-- Up to the answer that says to stop, everything is answered as if the stop never came. -/
theorem answer_eq_of_not_tells {q : Request} (h : c.tells stop q = false) :
    answer reply stop q c = answer reply none q c := by
  cases q with
  | stopRequested => exact Prod.ext h rfl
  | pause d => exact if_neg (ne_true_of_eq_false h)
  | _ => rfl

/-- The answer that says to stop changes nothing. -/
theorem answer_of_tells {q : Request} (h : c.tells stop q = true) :
    (answer reply stop q c).2 = c := by
  cases q with
  | stopRequested => rfl
  | pause d => exact congrArg Prod.snd (if_pos h)
  | _ => exact nomatch h

/-- An answer says to stop only when the entry that the stop comes with was made. -/
theorem le_of_tells {q : Request} {n : Nat} (h : c.tells (some n) q = true) : n ≤ c.log.length :=
  of_decide_eq_true (Bool.and_eq_true_iff.1 h).2

/-- The number of entries until the stop comes. -/
def left (stop : Option Nat) (c : Chronicle σ) : Nat := stop.getD 0 - c.log.length

/-- The stop has come when no entries are left until it comes. -/
theorem stopped_eq_left : c.stopped stop = (stop.isSome && c.left stop == 0) := by
  cases stop with
  | none => rfl
  | some n =>
    show decide (n ≤ c.log.length) = (n - c.log.length == 0)
    rw [Bool.eq_iff_iff]
    simp only [decide_eq_true_eq, beq_iff_eq]
    omega

/-- The answers are such as the rules of a stop foresee. -/
theorem answer_foreseen (reply : (q : Request) → σ → q.Answer × σ) (stop : Option Nat)
    (q : Request) (c : Chronicle σ) :
    (stopRules stop.isSome).may ⟨false, c.left stop⟩ q (answer reply stop q c).1 ∧
      (stopRules stop.isSome).after ⟨false, c.left stop⟩ q (answer reply stop q c).1 =
        ⟨c.tells stop q, (answer reply stop q c).2.left stop⟩ := by
  have hentry (r : Request) : stop.getD 0 - c.log.length - r.isLogged.toNat =
      stop.getD 0 - (if r.isLogged then c.log ++ [r] else c.log).length := by
    cases r.isLogged with
    | false => rfl
    | true => exact (Nat.sub_sub _ _ _).trans (by rw [if_pos rfl, List.length_append]; rfl)
  cases q with
  | stopRequested => exact ⟨stopped_eq_left, rfl⟩
  | pause d =>
    have hpause : answer reply stop (.pause d) c = if c.stopped stop then (true, c)
        else (false, { c with around := (reply (.pause d) c.around).2 }) := rfl
    have htells : c.tells stop (.pause d) = c.stopped stop := rfl
    rw [hpause, htells]
    cases hs : c.stopped stop with
    | false => exact ⟨hs.symm.trans stopped_eq_left, rfl⟩
    | true => exact ⟨hs.symm.trans stopped_eq_left, rfl⟩
  | note n => exact ⟨trivial, rfl⟩
  | _ => exact ⟨trivial, congrArg (StopState.mk false) (hentry _)⟩

end Chronicle

/-! ## Truncation -/

/-- A run that is stopped with an entry of its log cuts the full run short, and its result says so,
or both are the same. -/
structure Truncates {σ α : Type} (n : Nat) (stopped : α → Prop)
    (cut full : Except Breakdown α × Chronicle σ) : Prop where
  /-- The log is a prefix. -/
  log : cut.2.log <+: full.2.log
  /-- What was noted is a prefix. -/
  notes : cut.2.notes <+: full.2.notes
  /-- The stop has come and the result says that the run was cut short, or nothing differs. -/
  ending : (n ≤ cut.2.log.length ∧ ∃ a, cut.1 = .ok a ∧ stopped a) ∨ cut = full

namespace Truncates

variable {σ α : Type} {n : Nat} {stopped : α → Prop} {cut full : Except Breakdown α × Chronicle σ}

/-- Nothing differs. -/
theorem refl (r : Except Breakdown α × Chronicle σ) : Truncates n stopped r r :=
  ⟨List.prefix_rfl, List.prefix_rfl, .inr rfl⟩

/-- The decisions are a prefix. -/
theorem decisions (h : Truncates n stopped cut full) : cut.2.decisions <+: full.2.decisions :=
  h.notes.filterMap _

/-- The recognised names are a prefix. -/
theorem recognised (h : Truncates n stopped cut full) : cut.2.recognised <+: full.2.recognised :=
  h.notes.filterMap _

end Truncates

section

variable {σ α : Type} {reply : (q : Request) → σ → q.Answer × σ} {stopped : α → Prop}
  {used : α → Nat} {rounds : Nat} {d : Talk α}

/-- A dialogue that was told to stop is at its end. -/
theorem eq_done_of_told {left left' : Nat}
    (h : d.Follows (stopRules true) (Heeded true left stopped used) ⟨true, left'⟩) :
    ∃ a, d = .done a ∧ stopped a := by
  cases d with
  | done a => exact ⟨a, rfl, h.told.1 rfl⟩
  | halt b => exact nomatch h.1
  | ask q next => exact nomatch h.1

/-- From the same point on, the stopped run cuts the other one short. Both are the same up to the
first question that is answered by a stop. -/
theorem follows_truncates {n begun : Nat} {c : Chronicle σ}
    (h : d.Follows (stopRules true) (Heeded true begun stopped used) ⟨false, c.left (some n)⟩) :
    Truncates n stopped (d.run (Chronicle.answer reply (some n)) c)
      (d.run (Chronicle.answer reply none) c) := by
  induction d generalizing c with
  | done a => exact .refl _
  | halt b => exact .refl _
  | ask q next ih =>
    obtain ⟨hmay, hafter⟩ := Chronicle.answer_foreseen reply (some n) q c
    have hnext := h.2 _ hmay
    rw [Option.isSome_some] at hafter
    rw [hafter] at hnext
    show Truncates n stopped
      ((next (Chronicle.answer reply (some n) q c).1).run _ (Chronicle.answer reply (some n) q c).2)
      ((next (Chronicle.answer reply none q c).1).run _ (Chronicle.answer reply none q c).2)
    cases htells : c.tells (some n) q with
    | false =>
      rw [htells] at hnext
      -- Both get the same answer and go on from the same point.
      rw [← Chronicle.answer_eq_of_not_tells htells]
      exact ih _ hnext
    | true =>
      -- The stopped run is at its end, and the other one only adds to the log.
      rw [htells] at hnext
      obtain ⟨a, ha, hs⟩ := eq_done_of_told hnext
      rw [ha, Chronicle.answer_of_tells htells]
      obtain ⟨hlog, hnotes⟩ := Chronicle.run_grows reply none (Dialogue.ask q next) c
      exact ⟨hlog, hnotes, .inl ⟨Chronicle.le_of_tells htells, a, rfl, hs⟩⟩

/-- What the rules say of the end of a dialogue holds of a run, with the number of entries that are
left then. -/
theorem Heeds.ends (stop : Option Nat) (h : Heeds stop.isSome rounds stopped used d) {around : σ}
    (hleft : stop.isSome = true → Chronicle.left stop ⟨around, [], []⟩ < rounds) :
    (∀ a, (d.run (Chronicle.answer reply stop) ⟨around, [], []⟩).1 = .ok a → stopped a →
      stop.isSome = true) ∧
    ∀ b, (d.run (Chronicle.answer reply stop) ⟨around, [], []⟩).1 = .error b →
      stop.isSome = true → b ≠ .outOfRounds := by
  -- The entries that are left by the rules are those that are left in the chronicle.
  have hstep (g : StopState) (c : Chronicle σ) (q : Request)
      (hg : g.left = c.left stop ∧ (stop.isSome = false → g.told = false))
      (hasks : (stopRules stop.isSome).asks g q) :
      (stopRules stop.isSome).may g q (Chronicle.answer reply stop q c).1 ∧
        ((stopRules stop.isSome).after g q (Chronicle.answer reply stop q c).1).left =
          (Chronicle.answer reply stop q c).2.left stop ∧
        (stop.isSome = false →
          ((stopRules stop.isSome).after g q (Chronicle.answer reply stop q c).1).told =
            false) := by
    obtain ⟨told, left⟩ := g
    obtain rfl : told = false := hasks
    obtain rfl : left = c.left stop := hg.1
    obtain ⟨hmay, hafter⟩ := Chronicle.answer_foreseen reply stop q c
    refine ⟨hmay, ?_⟩
    rw [hafter]
    refine ⟨rfl, fun hnone => ?_⟩
    obtain rfl := Option.isNone_iff_eq_none.1 (by simpa using hnone)
    exact Bool.and_false _
  obtain ⟨hdone, hbroken⟩ := (h _ hleft).run (Chronicle.answer reply stop)
    (fun g c => g.left = c.left stop ∧ (stop.isSome = false → g.told = false))
    ⟨rfl, fun _ => rfl⟩ hstep
  refine ⟨fun a ha hs => ?_, fun b hb => ?_⟩
  · obtain ⟨g, hg, -, htold⟩ := hdone a ha
    refine eq_true_of_ne_false fun hnone => ?_
    exact Bool.false_ne_true ((htold hnone).symm.trans (hg.told.2 hs))
  · obtain ⟨g, ⟨-, hcomes⟩, -⟩ := hbroken b hb
    exact hcomes

/-- A run whose stop comes early enough does not use up its rounds. -/
theorem Heeds.returns {n : Nat} (h : Heeds true rounds stopped used d) (hn : n < rounds)
    (around : σ) :
    (d.run (Chronicle.answer reply (some n)) ⟨around, [], []⟩).1 ≠ .error .outOfRounds :=
  fun hout => (Heeds.ends (some n) h fun _ => hn).2 _ hout rfl rfl

/-- A run whose stop never comes does not end as if it was told to stop. -/
theorem Heeds.unstopped (h : Heeds false rounds stopped used d) {around : σ} {a : α}
    (ha : (d.run (Chronicle.answer reply none) ⟨around, [], []⟩).1 = .ok a) : ¬ stopped a :=
  fun hs => nomatch (Heeds.ends none h nofun).1 a ha hs

end

end Autoplay
