import Autoplay.Proofs.Account.Order

/-!
# Tolerated failures do not show

A gesture that fails, an app that is not started or closed, and a question about a screen that
cannot be answered are tolerated. The main statement, `tolerated_failures_do_not_show`, compares two
runs in the same surroundings, where in one of them any number of such failures are mended: the
gestures have gone well, and the questions have found nothing.
-/

namespace Autoplay

/-- The run of a workflow goes on in the same way after a tolerated failure. -/
theorem indifferent_play (ctx : Context) : ctx.play.Indifferent Request.excused := by
  have horderly : Orderly (fun _ => True) (fun _ => True) ctx.play :=
    orderly_run ctx (fun _ => trivial) fun _ => trivial
  exact horderly.indifferent

/-- So does the cycle of an account. -/
theorem indifferent_processAccount (settings : Settings) (account : String)
    (workflow : Option Workflow) (rounds : Nat) :
    (settings.processAccount account workflow rounds).Indifferent Request.excused := by
  have horderly : Orderly (fun _ => True) (fun _ => True)
      (settings.processAccount account workflow rounds) :=
    settings.orderly_processAccount workflow rounds (fun _ => trivial) (fun _ => trivial)
      (fun _ => trivial) account
  exact horderly.indifferent

/-- Whichever tolerated failures are mended, the run of a workflow and the cycle of an account make
the same requests in the same order, their commands, questions, decisions and recognised names
among them; they end with the same result, and the surroundings are the same at the end. The
surroundings may be any, and `chosen` says which answers are mended if they are such failures. -/
theorem tolerated_failures_do_not_show {σ : Type} (answer : (q : Request) → σ → q.Answer × σ)
    (chosen : Nat → Bool) (s : σ) :
    let mended := Dialogue.changed Request.excused chosen answer
    (∀ ctx : Context,
      ctx.play.requests mended (s, 0) = ctx.play.requests answer s ∧
      (ctx.play.run mended (s, 0)).1 = (ctx.play.run answer s).1 ∧
      (ctx.play.run mended (s, 0)).2.1 = (ctx.play.run answer s).2) ∧
    ∀ (settings : Settings) (account : String) (workflow : Option Workflow) (rounds : Nat),
      let cycle := settings.processAccount account workflow rounds
      cycle.requests mended (s, 0) = cycle.requests answer s ∧
      (cycle.run mended (s, 0)).1 = (cycle.run answer s).1 ∧
      (cycle.run mended (s, 0)).2.1 = (cycle.run answer s).2 :=
  ⟨fun ctx => (indifferent_play ctx).run_change chosen answer s 0,
    fun settings account workflow rounds =>
      (indifferent_processAccount settings account workflow rounds).run_change chosen answer s 0⟩

end Autoplay
