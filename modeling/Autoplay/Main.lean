import Autoplay.Console.Session
import Autoplay.Json.Reader

/-!
# The command line

Rehearses a session. The arguments say what is to be done; the first line of standard input
describes the workplace as a JSON document, and without one the workplace is empty. What the session
prints is printed, a complaint behind everything else, and its exit code is that of the program.
-/

/-- Rehearses the session that the arguments ask for. -/
def main (arguments : List String) : IO UInt32 := do
  let description ← (← IO.getStdin).getLine
  let place := Autoplay.Console.Workplace.ofDocument ((Autoplay.Json.read description).getD .null)
  let (outcome, _) := Autoplay.Console.session arguments place
  for line in outcome.lines do IO.println line
  for complaint in outcome.complaint.toList do IO.eprintln ("Error: " ++ complaint)
  pure outcome.code.toUInt32
