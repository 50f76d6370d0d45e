import Autoplay.Recognition.NameMatch
import Autoplay.Run.Step
import Autoplay.Workflow.Validation

/-!
# Drawn names and exported accounts

The step that reads a name off the screen and compares it with the wanted ones. On a hit the account
file of the device is exported: it is copied to a place that may be read, fetched under a name made
of the drawn name and the date, and the copy is removed. An export that fails does not undo the hit.
-/

namespace Autoplay

/-- The file name of an export: the label with `_` for blanks and separators, the date, and the name
of the account file. -/
def exportFileName (label : String) (date : Date) (prefFileName : String) : String :=
  label.map (fun c => if c = ' ' || c = '/' then '_' else c) ++ "_" ++ date.compact ++ "_"
    ++ prefFileName

/-- Gives a privileged command, whose failure is that of the step. -/
def privilegedOrFail (line : String) : Play Unit := do
  match ← Talk.command (.privileged line) with
  | .ok _ => pure ()
  | .error e => throw (.deviceUnreachable e)

/-- Exports the account file of the device to a folder. -/
def exportAccount (ctx : Context) (folder label : String) : Play Unit := do
  let game := ctx.settings.game
  match ← Talk.ask (.makeFolders folder) with
  | .error e => throw (.export e)
  | .ok () =>
    let today ← Talk.ask .today
    let dest := Path.join folder (exportFileName label today game.prefFileName)
    let temp := game.exportTempPath
    Stoppable.checkpoint
    privilegedOrFail ("cp '" ++ game.prefPath ++ "' '" ++ temp ++ "'")
    privilegedOrFail ("chmod 644 '" ++ temp ++ "'")
    let pulled ← Talk.command (.pull temp dest)
    let _ ← Talk.command (.privileged ("rm '" ++ temp ++ "'"))
    match pulled with
    | .ok () => pure ()
    | .error e => throw (.deviceUnreachable e)

namespace GachaCheck

/-- Reads a name off the screen and compares it with the wanted ones. -/
def play (s : GachaCheck) (ctx : Context) : Play Flow := do
  let targets := s.wanted
  if targets.isEmpty then throw (.misconfigured "gacha_check without target_characters")
  match ← Play.attempt Play.capture with
  | .error _ => pure .next
  | .ok screen =>
    match ← Context.readText screen s.region with
    | none => pure .next
    | some text =>
      match Recognition.findName text targets ctx.settings.recognition.matchThreshold with
      | none => pure .next
      | some name =>
        if let some folder := s.exportFolder then
          let _ ← Play.attempt (exportAccount ctx folder name)
        Talk.note (.matched name)
        pure (.matched name)

end GachaCheck

end Autoplay
