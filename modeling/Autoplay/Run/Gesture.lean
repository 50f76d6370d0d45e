import Autoplay.Run.Step

/-!
# Gestures

The steps that do something to the device without looking at it: tap, swipe, go back, wait, and
start or restart the game. A command that fails does not matter; the wait after it takes place all
the same.
-/

namespace Autoplay

/-- Gives a command and waits for the screen to settle. -/
def gesture (c : Command) (settle : Float) : Play Flow := do
  let _ ← Stoppable.order c
  Stoppable.pauseSeconds settle
  pure .next

/-- Taps a fixed place. -/
def Click.play (s : Click) (ctx : Context) : Play Flow :=
  gesture (.tap s.x s.y) ctx.settings.timing.clickSettle

/-- Swipes. -/
def Swipe.play (s : Swipe) (ctx : Context) : Play Flow :=
  gesture (.swipe s.x s.y s.endX s.endY (.ofMillis s.millis.toNat)) ctx.settings.timing.swipeSettle

/-- Presses the back key. -/
def pressBack (ctx : Context) : Play Flow :=
  gesture (.key Command.backKey) ctx.settings.timing.backSettle

/-- Waits. -/
def Wait.play (s : Wait) : Play Flow := do
  Stoppable.pause (.ofMillis s.millis.toNat)
  pure .next

/-- The package of a step about the game. -/
def App.packageIn (s : App) (ctx : Context) : String := s.package.getD ctx.settings.game.package

/-- Closes the game and starts it again. -/
def App.restart (s : App) (ctx : Context) : Play Flow := do
  let package := s.packageIn ctx
  let _ ← gesture (.forceStop package) ctx.settings.timing.restartStopWait
  gesture (.startApp package) ctx.settings.timing.restartStartWait

end Autoplay
