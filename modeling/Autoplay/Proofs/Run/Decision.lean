import Autoplay.Proofs.Run.Chronicle
import Autoplay.Proofs.Run.Failure
import Autoplay.Proofs.Run.Noting

/-!
# Decisions

A conditional step looks at the screen once, notes its decision, and ends as the decision says. Main
statements: it notes its decision and nothing else, as the last thing that it does
(`conditional_goes`), and it leads to where the branch of its decision leads
(`Conditional.next?_eq`).
-/

namespace Autoplay

/-- Where a branch leads from a position: to its target, whose number is one more than its position,
or else to the position after it. -/
def Branch.next (index : Nat) : Branch → Nat
  | .thenGo target => target - 1
  | .elseGo target => target - 1
  | .skipped => index + 1

namespace Conditional

/-- The look fails only by a stop. -/
theorem onlyStops_look (s : Conditional) (ctx : Context) : OnlyStops (s.look ctx) := by
  unfold look
  refine (onlyStops_attempt _).bind fun shot => ?_
  cases shot with
  | ok screen => exact (onlyStops_inPlay _).bind fun _ => onlyStops_pure _
  | error e => exact onlyStops_pure _

/-- A conditional step recognises no name. -/
theorem verdict_ne_matched (s : Conditional) {count : Nat} {found : Bool} {name : String} :
    s.verdict count found ≠ .ok (.matched name) := by
  unfold verdict
  split
  · exact nofun
  · split <;> exact nofun

/-- Where the decision leads, the step ends. -/
theorem next?_eq (s : Conditional) (count index : Nat) (found : Bool) :
    Flow.next? index (s.verdict count found) = some ((s.branch count found).next index) := by
  unfold verdict branch
  cases s.goal found with
  | none => rfl
  | some target =>
    dsimp only
    split
    · split <;> rfl
    · rfl

end Conditional

/-- A conditional step notes its decision as the last thing that it does, and ends as the decision
says; or it comes to none because it is stopped or breaks off. -/
theorem conditional_goes (s : Conditional) {ctx : Context} {index : Nat} {t : Transcript}
    {r : Except Breakdown (Except StepError Flow)} (h : (s.play ctx index).run.Goes t r) :
    (∃ u found, (∀ x ∈ u, x.1.note? = none) ∧
      t = u ++ [⟨.note (.decided (s.decision ctx.workflow.steps.length index found)), ()⟩] ∧
      r = .ok (s.verdict ctx.workflow.steps.length found)) ∨
    (∀ x ∈ t, x.1.note? = none) ∧ (r = .ok (.error .aborted) ∨ ∃ b, r = .error b) := by
  rw [s.play_eq] at h
  rcases Dialogue.goes_bind_run.1 h with
    ⟨found, u, v, rfl, hlook, hconclude⟩ | ⟨e, rfl, hlook⟩ | ⟨b, rfl, hlook⟩
  · obtain ⟨_, rest, rfl, rfl, rfl⟩ := hconclude
    exact .inl ⟨u, found, (s.notes_look ctx).silent hlook, rfl, rfl⟩
  · have he : e = .aborted := Dialogue.Yields.of_goes (s.onlyStops_look ctx) hlook e rfl
    exact .inr ⟨(s.notes_look ctx).silent hlook, .inl (by rw [he])⟩
  · exact .inr ⟨(s.notes_look ctx).silent hlook, .inr ⟨b, rfl⟩⟩

/-- Surroundings in which screenshots succeed, each search on one has the same outcome, and nothing
else succeeds. -/
def sighted (hit : Option Point) : (q : Request) → Unit → q.Answer × Unit
  | .command .screenshot, _ => (.ok (.tabulate 1 1 fun _ _ => ⟨0, 0, 0⟩), ())
  | .find .., _ => (.ok hit, ())
  | q, s => unresponsive q s

/-- There a conditional step ends as its look at the screen says. -/
theorem Conditional.run_sighted (c : Conditional) (ctx : Context) (index : Nat)
    (hit : Option Point) :
    ((c.play ctx index).run.run (Chronicle.answer (sighted hit) none) ⟨(), [], []⟩).1 =
      .ok (c.verdict ctx.workflow.steps.length hit.isSome) := by
  rw [c.play_eq]
  rfl

end Autoplay
