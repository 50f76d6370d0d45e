import Autoplay.Run.Step

/-!
# Searches

The steps that look at the screen again and again: a search for a template that is then tapped, taps
on a template for as long as it turns up, and the wait for a colour. Each look takes a screenshot of
its own.
-/

namespace Autoplay

/-- Taps several places with a gap between two taps, and waits for the screen to settle. -/
def tapAll (ctx : Context) (gap : Bool) : List Point → Play Unit
  | [] => Stoppable.pauseSeconds ctx.settings.timing.clickSettle
  | p :: rest => do
    if gap then Stoppable.pauseSeconds ctx.settings.timing.findAllGap
    let _ ← Stoppable.order (.tap p.x p.y)
    tapAll ctx true rest

namespace TemplateSearch

/-- The limits of a search. -/
structure Limits where
  /-- When the search began. -/
  started : Nat
  /-- How long it may take. -/
  wait : Duration
  /-- The wait between two looks. -/
  interval : Duration
  /-- The number of looks, if it is limited. -/
  looks : Option Nat

/-- The limit of looks; zero stands for none. -/
def lookLimit (s : TemplateSearch) : Option Nat :=
  (s.maxRetries.filter fun n => n != 0).map UInt32.toNat

/-- The hits on a screen. -/
def hits (s : TemplateSearch) (ctx : Context) (all : Bool) (screen : Picture) :
    Talk (List Point) := do
  if all then ctx.locateAll screen s.templatePath s.threshold
  else return (← ctx.locate screen s.templatePath s.threshold).toList

/-- Looks until there is a hit, which is tapped, or a limit is reached; then the number of looks is
the result, which is counted in 32 bits and so starts again at zero after the last of them. -/
def look (s : TemplateSearch) (ctx : Context) (all : Bool) (limits : Limits) :
    Nat → UInt32 → Play (Option UInt32)
  | 0, _ => Play.outOfRounds
  | rounds + 1, attempts => do
    let elapsed := (← Talk.clock) - limits.started
    if limits.wait.nanos ≤ elapsed then return some attempts
    if limits.looks.any fun n => n ≤ attempts.toNat then return some attempts
    match ← Play.attempt Play.capture with
    | .error _ =>
      Stoppable.pause limits.interval
      look s ctx all limits rounds (attempts + 1)
    | .ok screen =>
      let found ← s.hits ctx all screen
      if found.isEmpty then
        Stoppable.pause limits.interval
        look s ctx all limits rounds (attempts + 1)
      else
        tapAll ctx false found
        return none

/-- Searches a template and taps its best hit or all of them. -/
def play (s : TemplateSearch) (ctx : Context) (all : Bool) : Play Flow := do
  let wait ← Talk.seconds s.maxWaitSeconds
  let interval ← Talk.seconds s.retryInterval
  let started ← Talk.clock
  match ← s.look ctx all ⟨started, wait, interval, s.lookLimit⟩ ctx.rounds 0 with
  | none => pure .next
  | some attempts =>
    if s.skipIfNotFound then pure .next
    else
      let elapsed := (← Talk.clock) - started
      throw (.templateNotFound (templateDisplayName s.templateName s.templatePath) attempts
        ⟨elapsed⟩)

end TemplateSearch

namespace LoopClick

/-- Looks a number of times: a hit is tapped, and enough misses in a row end the loop. -/
def look (s : LoopClick) (ctx : Context) : Nat → Nat → Play Unit
  | 0, _ => pure ()
  | looks + 1, misses => do
    match ← Play.attempt Play.capture with
    | .error _ =>
      Stoppable.pauseSeconds ctx.settings.timing.screenshotRetry
      look s ctx looks misses
    | .ok screen =>
      match ← ctx.locate screen s.templatePath s.threshold with
      | some p =>
        let _ ← Stoppable.order (.tap p.x p.y)
        Stoppable.pauseSeconds s.clickDelay
        look s ctx looks 0
      | none =>
        if s.notFoundThreshold.toNat ≤ misses + 1 then pure ()
        else
          Stoppable.pauseSeconds s.retryDelay
          look s ctx looks (misses + 1)

/-- Taps a template for as long as it turns up. -/
def play (s : LoopClick) (ctx : Context) : Play Flow := do
  s.look ctx s.maxIterations.toNat 0
  pure .next

end LoopClick

namespace ColorWait

/-- Looks until the pixel has its colour; the result is whether it got it in time. -/
def look (s : ColorWait) (bgr : UInt8 × UInt8 × UInt8) (started : Nat) (wait interval : Duration) :
    Nat → Play Bool
  | 0 => Play.outOfRounds
  | rounds + 1 => do
    let elapsed := (← Talk.clock) - started
    if wait.nanos ≤ elapsed then return false
    match ← Play.attempt Play.capture with
    | .error _ =>
      Stoppable.pause interval
      look s bgr started wait interval rounds
    | .ok screen =>
      match screen.hasColour? s.x s.y bgr s.tolerance with
      | none => throw (.outOfBounds s.x s.y screen.width screen.height)
      | some true => return true
      | some false =>
        Stoppable.pause interval
        look s bgr started wait interval rounds

/-- Waits until a pixel has a colour. -/
def play (s : ColorWait) (ctx : Context) : Play Flow := do
  match s.expectedBgr with
  | none =>
    throw (.misconfigured ("wait_for_color expected_color needs 3 channels, got "
      ++ Decimal.digits s.expectedColor.length))
  | some bgr =>
    let wait ← Talk.seconds s.maxWaitSeconds
    let interval ← Talk.seconds s.checkInterval
    let started ← Talk.clock
    if ← s.look bgr started wait interval ctx.rounds then pure .next
    else
      let elapsed := (← Talk.clock) - started
      throw (.colorTimeout s.x s.y ⟨elapsed⟩)

end ColorWait

end Autoplay
