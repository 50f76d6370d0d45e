import Autoplay.Run.Step

/-!
# The claim routine

What is done for an account when no workflow is given: the buttons of the settings are looked for in
their order, and the first one that is there is tapped, until a number of looks in a row were in
vain.
-/

namespace Autoplay

/-- What a claim routine did. -/
structure ClaimSummary where
  /-- Number of looks. -/
  iterations : Nat
  /-- Number of taps. -/
  taps : Nat
deriving DecidableEq, Repr

namespace Settings

/-- Where a template that is known without a workflow is on a screen. -/
def locateBuiltin (s : Settings) (screen : Picture) (template : String) : Talk (Option Point) := do
  let path := s.templatePath template
  match ← Talk.ask (.find screen path s.templates.builtinThreshold) with
  | .ok hit => pure hit
  | .error _ => pure none

/-- The first button that is on a screen, and where. -/
def firstButton (s : Settings) (screen : Picture) : List ClaimButton →
    Talk (Option (ClaimButton × Point))
  | [] => pure none
  | b :: rest => do
    match ← s.locateBuiltin screen b.template with
    | some p => pure (some (b, p))
    | none => firstButton s screen rest

/-- Looks a number of times for a button, with what was done before and the misses in a row. -/
def claimLooks (s : Settings) : Nat → ClaimSummary → Nat → Stoppable ClaimSummary
  | 0, summary, _ => pure summary
  | looks + 1, summary, misses => do
    Stoppable.checkpoint
    let summary := { summary with iterations := summary.iterations + 1 }
    match ← Talk.command .screenshot with
    | .error _ =>
      Stoppable.pauseSeconds s.timing.screenshotRetry
      claimLooks s looks summary misses
    | .ok screen =>
      match ← s.firstButton screen s.templates.claimButtons with
      | some (b, p) =>
        let _ ← Stoppable.order (.tap p.x p.y)
        Stoppable.pauseSeconds b.delay
        claimLooks s looks { summary with taps := summary.taps + 1 } 0
      | none =>
        if s.claim.missLimit.toNat ≤ misses + 1 then pure summary
        else
          Stoppable.pauseSeconds s.claim.missWait
          claimLooks s looks summary (misses + 1)

/-- Claims what there is to claim. -/
def claimRewards (s : Settings) : Stoppable ClaimSummary :=
  s.claimLooks s.claim.maxIterations.toNat ⟨0, 0⟩ 0

end Settings

end Autoplay
