import Autoplay.Proofs.Run.Chronicle
import Autoplay.Proofs.Run.Heeding
import Autoplay.Proofs.Run.Rounds

/-!
# A stop only cuts a run short

The main statement, `stop_truncates`, compares a run that is stopped with a certain entry of its log
with one that is not stopped, in the same surroundings. The stopped run returns, also where the
other one goes on without end; all that it did is the beginning of what the other one does; and it
is reported as aborted, or nothing differs.
-/

namespace Autoplay

variable {σ : Type}

/-- A run of a workflow from the beginning, with a stop that comes with a certain entry or never. -/
def Context.chronicled (ctx : Context) (reply : (q : Request) → σ → q.Answer × σ)
    (stop : Option Nat) (around : σ) : Except Breakdown Report × Chronicle σ :=
  ctx.play.run (Chronicle.answer reply stop) ⟨around, [], []⟩

section

variable (w : Workflow) (settings : Settings) (reply : (q : Request) → σ → q.Answer × σ)
  (around : σ) {n rounds rounds' : Nat}

/-- The rounds that suffice for all entries up to a stop. -/
def Workflow.enough (w : Workflow) (n : Nat) : Nat := (n + 1) * (w.steps.length + 1)

/-- A stopped run does not use up its rounds if they are enough. -/
theorem chronicled_returns (h : w.enough n ≤ rounds) :
    (Context.chronicled ⟨w, settings, rounds⟩ reply (some n) around).1 ≠ .error .outOfRounds := by
  have hn : n < rounds / (w.steps.length + 1) := (Nat.le_div_iff_mul_le (Nat.succ_pos _)).2 h
  exact (heeds_play ⟨w, settings, rounds⟩).returns hn around

/-- Rounds beyond those that suffice do not matter for a stopped run. -/
theorem chronicled_rounds (h : w.enough n ≤ rounds) (h' : w.enough n ≤ rounds') :
    Context.chronicled ⟨w, settings, rounds⟩ reply (some n) around =
      Context.chronicled ⟨w, settings, rounds'⟩ reply (some n) around := by
  have hleast (r : Nat) (hr : w.enough n ≤ r) :
      Context.chronicled ⟨w, settings, r⟩ reply (some n) around =
        Context.chronicled ⟨w, settings, w.enough n⟩ reply (some n) around :=
    (within_play hr).run_eq _ _ (chronicled_returns w settings reply around (Nat.le_refl _))
  rw [hleast rounds h, hleast rounds' h']

/-- With the same rounds, the stopped run cuts the other one short. -/
theorem chronicled_truncates (h : w.enough n ≤ rounds) :
    Truncates n (fun report => report.status = .aborted)
      (Context.chronicled ⟨w, settings, rounds⟩ reply (some n) around)
      (Context.chronicled ⟨w, settings, rounds⟩ reply none around) :=
  follows_truncates (heeds_play ⟨w, settings, rounds⟩ n fun _ =>
    (Nat.le_div_iff_mul_le (Nat.succ_pos _)).2 h)

/-- A run that is never stopped is not reported as aborted. -/
theorem chronicled_not_aborted (report : Report)
    (h : (Context.chronicled ⟨w, settings, rounds⟩ reply none around).1 = .ok report) :
    report.status ≠ .aborted :=
  (heeds_play ⟨w, settings, rounds⟩).unstopped h

/-- A stop that comes with an entry of the log, or at once, cuts a run short and does nothing else,
whatever the workflow, the settings, the device, the screens and the clock. Enough rounds are not
used up by the stopped run, so it returns; its log, its decisions and the names that it recognised
are prefixes of those of the run without the stop; and either the stop has come and the run is
reported as aborted, or nothing differs, not even a breakdown. A run without a stop is never
reported as aborted. -/
theorem stop_truncates :
    ∃ least, ∀ rounds rounds', least ≤ rounds → least ≤ rounds' →
      let cut := Context.chronicled ⟨w, settings, rounds⟩ reply (some n) around
      let full := Context.chronicled ⟨w, settings, rounds'⟩ reply none around
      cut.1 ≠ .error .outOfRounds ∧
      cut.2.log <+: full.2.log ∧
      cut.2.decisions <+: full.2.decisions ∧
      cut.2.recognised <+: full.2.recognised ∧
      ((n ≤ cut.2.log.length ∧ ∃ report, cut.1 = .ok report ∧ report.status = .aborted) ∨
        cut = full) ∧
      ∀ report, full.1 = .ok report → report.status ≠ .aborted := by
  refine ⟨w.enough n, fun rounds rounds' h h' => ?_⟩
  -- The stopped run is the same with the rounds of the other one.
  have hsame := chronicled_rounds w settings reply around h h'
  have htruncates := chronicled_truncates w settings reply around h'
  refine ⟨chronicled_returns w settings reply around h, ?_⟩
  rw [hsame]
  exact ⟨htruncates.log, htruncates.decisions, htruncates.recognised, htruncates.ending,
    chronicled_not_aborted w settings reply around⟩

end

end Autoplay
