import Autoplay.Run.Control

/-!
# Stop signals

A stop signal is told once and stays told. Several handles may lead to one signal, so that one who
holds a handle can stop another one who holds a handle on the same signal.
-/

namespace Autoplay

/-- Signals and the handles on them. -/
structure StopSignals where
  /-- Whether each signal was told. -/
  told : List Bool := []
  /-- The signal that each handle leads to. -/
  handles : List Nat := []
deriving DecidableEq, Repr

namespace StopSignals

/-- A new signal, and a handle on it. -/
def fresh (s : StopSignals) : StopSignals × Nat :=
  (⟨s.told ++ [false], s.handles ++ [s.told.length]⟩, s.handles.length)

/-- The signal that a handle leads to. -/
def signal (s : StopSignals) (handle : Nat) : Nat := s.handles.getD handle 0

/-- Another handle on the signal of a handle. -/
def share (s : StopSignals) (handle : Nat) : StopSignals × Nat :=
  ({ s with handles := s.handles ++ [s.signal handle] }, s.handles.length)

/-- Tells a signal. -/
def trigger (s : StopSignals) (handle : Nat) : StopSignals :=
  { s with told := s.told.set (s.signal handle) true }

/-- Whether a signal was told. -/
def isSet (s : StopSignals) (handle : Nat) : Bool := s.told.getD (s.signal handle) false

/-- Goes on only if a signal was not told. -/
def checkpoint (s : StopSignals) (handle : Nat) : Except Stopped Unit :=
  if s.isSet handle then .error ⟨⟩ else .ok ()

end StopSignals

end Autoplay
