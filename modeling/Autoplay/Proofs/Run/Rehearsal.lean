import Autoplay.Proofs.Run.Truncation
import Autoplay.Rehearsal.Stage

/-!
# Rehearsals are chronicled runs

A stage answers like surroundings that keep a chronicle: its log is the chronicle's log in words,
and its stop comes with the same entry. So a stop cuts a rehearsal short like any other run
(`rehearsal_truncates`).
-/

namespace Autoplay

/-- The log line of a request that makes an entry. -/
def Request.line : Request → String
  | .command c => c.text
  | .find _ path threshold => Stage.findLine "find" path threshold
  | .findAll _ path threshold => Stage.findLine "find_all" path threshold
  | .readText _ region => Stage.readLine region
  | _ => ""

namespace Stage

variable {π α : Type} {sight : Sight π}

/-- A stage without what a chronicle keeps. -/
def bare (s : Stage π) : Stage π :=
  { s with log := [], notes := [], stopped := false, stopAfter := none }

/-- How a stage answers, apart from what a chronicle keeps. -/
def reply (sight : Sight π) (q : Request) (s : Stage π) : q.Answer × Stage π :=
  ((answer sight q s).1, (answer sight q s).2.bare)

/-- A chronicle has what has happened on a stage. -/
structure Chronicled (stop : Option Nat) (s : Stage π) (c : Chronicle (Stage π)) : Prop where
  /-- Everything else is the same. -/
  around : c.around = s.bare
  /-- The log has a line for each entry. -/
  log : s.log.reverse = c.log.map Request.line
  /-- The notes are the same. -/
  notes : s.notes.reverse = c.notes
  /-- The stop comes with the same entry. -/
  stopAfter : s.stopAfter = stop
  /-- It has come to both or to none. -/
  stopped : s.stopped = c.stopped stop

section

variable {stop : Option Nat} {s : Stage π} {c : Chronicle (Stage π)}

/-- A line is written for an entry, and the stop comes with it or has come before. -/
theorem Chronicled.write (h : Chronicled stop s c) (q : Request) :
    (s.write q.line).log.reverse = (c.log ++ [q]).map Request.line ∧
      (s.write q.line).stopped = stop.any (· ≤ (c.log ++ [q]).length) := by
  have hlength : s.log.length = c.log.length := by
    rw [← List.length_reverse, h.log, List.length_map]
  refine ⟨?_, ?_⟩
  · rw [List.map_append, ← h.log]
    exact List.reverse_cons
  · -- The stop has come before this line, or it comes with it.
    show (s.stopped || s.stopAfter == some (s.log.length + 1)) = _
    rw [h.stopped, h.stopAfter, hlength, List.length_append]
    cases stop with
    | none => rfl
    | some n =>
      show (decide (n ≤ c.log.length) || some n == some (c.log.length + 1)) =
        decide (n ≤ c.log.length + 1)
      rw [Bool.eq_iff_iff]
      simp only [Bool.or_eq_true, decide_eq_true_eq, beq_iff_eq, Option.some.injEq]
      omega

/-- A stage answers as its chronicle does. -/
theorem Chronicled.answer (h : Chronicled stop s c) (q : Request) :
    (Stage.answer sight q s).1 = (Chronicle.answer (reply sight) stop q c).1 ∧
      Chronicled stop (Stage.answer sight q s).2 (Chronicle.answer (reply sight) stop q c).2 := by
  have hwrite := h.write
  obtain ⟨around, log, notes⟩ := c
  obtain ⟨rfl, hlog, hnotes, hstop, hstopped⟩ := h
  cases q with
  | stopRequested => exact ⟨hstopped, rfl, hlog, hnotes, hstop, hstopped⟩
  | pause d =>
    -- A wait takes its time unless the stop has come.
    have hstage : Stage.answer sight (.pause d) s =
        if s.stopped then (true, s) else (false, { s with now := s.now + d.nanos }) := rfl
    have hchronicle : Chronicle.answer (reply sight) stop (.pause d) ⟨s.bare, log, notes⟩ =
        if s.stopped then (true, ⟨s.bare, log, notes⟩)
        else (false, ⟨{ s with now := s.now + d.nanos }.bare, log, notes⟩) := by
      rw [hstopped]
      rfl
    rw [hstage, hchronicle]
    split
    · exact ⟨rfl, rfl, hlog, hnotes, hstop, hstopped⟩
    · exact ⟨rfl, rfl, hlog, hnotes, hstop, hstopped⟩
  | clock => exact ⟨rfl, rfl, hlog, hnotes, hstop, hstopped⟩
  | today => exact ⟨rfl, rfl, hlog, hnotes, hstop, hstopped⟩
  | makeFolders path =>
    cases hmade : s.files.makeFolders path with
    | mk files made =>
      -- Only the files change, and no entry is made.
      have hstage : Stage.answer sight (.makeFolders path) s = (made, { s with files }) := by
        simp only [Stage.answer, hmade]
      have hreply : reply sight (.makeFolders path) s.bare = (made, { s with files }.bare) := by
        simp only [reply, Stage.answer, bare, hmade]
      have hchronicle : Chronicle.answer (reply sight) stop (.makeFolders path)
          ⟨s.bare, log, notes⟩ = (made, ⟨{ s with files }.bare, log, notes⟩) := by
        simp only [Chronicle.answer, hreply]
        rfl
      rw [hstage, hchronicle]
      exact ⟨rfl, rfl, hlog, hnotes, hstop, hstopped⟩
  | note n =>
    obtain rfl : s.notes.reverse = notes := hnotes
    exact ⟨rfl, rfl, hlog, List.reverse_cons, hstop, hstopped⟩
  | command c =>
    obtain ⟨hlog', hstopped'⟩ := hwrite (.command c)
    exact ⟨rfl, rfl, hlog', hnotes, hstop, hstopped'⟩
  | find screen path threshold =>
    obtain ⟨hlog', hstopped'⟩ := hwrite (.find screen path threshold)
    exact ⟨rfl, rfl, hlog', hnotes, hstop, hstopped'⟩
  | findAll screen path threshold =>
    obtain ⟨hlog', hstopped'⟩ := hwrite (.findAll screen path threshold)
    exact ⟨rfl, rfl, hlog', hnotes, hstop, hstopped'⟩
  | readText screen region =>
    obtain ⟨hlog', hstopped'⟩ := hwrite (.readText screen region)
    exact ⟨rfl, rfl, hlog', hnotes, hstop, hstopped'⟩

/-- A run on a stage is the run of its chronicle. -/
theorem Chronicled.run (h : Chronicled stop s c) (d : Talk α) :
    (d.run (Stage.answer sight) s).1 = (d.run (Chronicle.answer (reply sight) stop) c).1 ∧
      Chronicled stop (d.run (Stage.answer sight) s).2
        (d.run (Chronicle.answer (reply sight) stop) c).2 := by
  induction d generalizing s c with
  | done a => exact ⟨rfl, h⟩
  | halt b => exact ⟨rfl, h⟩
  | ask q next ih =>
    obtain ⟨hanswer, hafter⟩ := h.answer q
    show ((next (Stage.answer sight q s).1).run _ _).1 =
        ((next (Chronicle.answer (reply sight) stop q c).1).run _ _).1 ∧
      Chronicled stop ((next (Stage.answer sight q s).1).run _ _).2
        ((next (Chronicle.answer (reply sight) stop q c).1).run _ _).2
    rw [← hanswer]
    exact ih _ hafter

end

end Stage

section

variable {π : Type} (sight : Sight π) (ctx : Context) (s : Stage π)

/-- A rehearsal from the beginning, with a stop that comes with a certain line of the log or never.
-/
def Context.rehearsed (stop : Option Nat) : Except Breakdown Report × Stage π :=
  ctx.play.run (Stage.answer sight) { s.bare with stopped := stop == some 0, stopAfter := stop }

/-- A rehearsal from the beginning is a chronicled run. -/
theorem rehearsed_chronicled (stop : Option Nat) :
    (ctx.rehearsed sight s stop).1 = (ctx.chronicled (Stage.reply sight) stop s.bare).1 ∧
      Stage.Chronicled stop (ctx.rehearsed sight s stop).2
        (ctx.chronicled (Stage.reply sight) stop s.bare).2 := by
  refine Stage.Chronicled.run ⟨rfl, rfl, rfl, rfl, ?_⟩ _
  cases stop with
  | none => rfl
  | some n =>
    show (some n == some 0) = decide (n ≤ 0)
    rw [Bool.eq_iff_iff, beq_iff_eq, Option.some_inj, decide_eq_true_iff]
    omega

/-- A stop that comes with a line of the log, or at once, cuts a rehearsal short and does nothing
else. -/
theorem rehearsal_truncates {n : Nat} (h : ctx.workflow.enough n ≤ ctx.rounds) :
    let cut := ctx.rehearsed sight s (some n)
    let full := ctx.rehearsed sight s none
    cut.2.log.reverse <+: full.2.log.reverse ∧
      cut.2.decisions <+: full.2.decisions ∧
      cut.2.recognised <+: full.2.recognised ∧
      ((∃ report, cut.1 = .ok report ∧ report.status = .aborted) ∨ cut.1 = full.1) := by
  intro cut full
  obtain ⟨hcut, hcut'⟩ := rehearsed_chronicled sight ctx s (some n)
  obtain ⟨hfull, hfull'⟩ := rehearsed_chronicled sight ctx s none
  have htruncates := chronicled_truncates ctx.workflow ctx.settings (Stage.reply sight) s.bare h
  refine ⟨?_, ?_, ?_, ?_⟩
  · rw [hcut'.log, hfull'.log]
    exact htruncates.log.map _
  · unfold Stage.decisions
    rw [hcut'.notes, hfull'.notes]
    exact htruncates.decisions
  · unfold Stage.recognised
    rw [hcut'.notes, hfull'.notes]
    exact htruncates.recognised
  · rw [hcut, hfull]
    rcases htruncates.ending with ⟨-, hstopped⟩ | hsame
    · exact .inl hstopped
    · exact .inr (congrArg Prod.fst hsame)

end

end Autoplay
