import Autoplay.Decimal.Notation
import Autoplay.Document.Decode
import Autoplay.Settings.Basic
import Autoplay.Toml.Reader

/-!
# Reading settings

Settings are read from a TOML document. Whatever is missing keeps its default, except in a claim
button, which has to be complete. Unknown fields do not matter. A section may also be written as the
list of its fields in order.
-/

namespace Autoplay

open Decoder

namespace Decoder

/-- A section of settings: its fields by name, or the list of its fields in order. -/
def settingsSection {α : Type} (name : String) (names : List String)
    (read : Fields → Except Mismatch α) :
    Decoder α
  | .record f => read f
  | .list items => read (Fields.positional names items)
  | d => .error (.wrongType d ("struct " ++ name))

end Decoder

namespace BridgeSettings

/-- Reads the fields of the section on devices. -/
def decodeFields (f : Fields) : Except Mismatch BridgeSettings := do
  f.check [.of "program" path, .of "command_timeout" float64, .of "screenshot_timeout" float64,
    .of "transfer_timeout" float64, .of "connect_timeout" float64]
  let d : BridgeSettings := {}
  let program ← f.withDefault "program" path d.program
  let commandTimeout ← f.withDefault "command_timeout" float64 d.commandTimeout
  let screenshotTimeout ← f.withDefault "screenshot_timeout" float64 d.screenshotTimeout
  let transferTimeout ← f.withDefault "transfer_timeout" float64 d.transferTimeout
  let connectTimeout ← f.withDefault "connect_timeout" float64 d.connectTimeout
  pure ⟨program, commandTimeout, screenshotTimeout, transferTimeout, connectTimeout⟩

/-- Reads the section on devices. -/
def decode : Decoder BridgeSettings :=
  settingsSection "AdbSettings"
    ["program", "command_timeout", "screenshot_timeout", "transfer_timeout", "connect_timeout"]
    decodeFields

end BridgeSettings

namespace GameSettings

/-- Reads the fields of the section on the game. -/
def decodeFields (f : Fields) : Except Mismatch GameSettings := do
  f.check [.of "package" text, .of "pref_path" text, .of "push_temp_path" text,
    .of "export_temp_path" text, .of "clear_cache" bool]
  let d : GameSettings := {}
  let package ← f.withDefault "package" text d.package
  let prefPath ← f.withDefault "pref_path" text d.prefPath
  let pushTempPath ← f.withDefault "push_temp_path" text d.pushTempPath
  let exportTempPath ← f.withDefault "export_temp_path" text d.exportTempPath
  let clearCache ← f.withDefault "clear_cache" bool d.clearCache
  pure ⟨package, prefPath, pushTempPath, exportTempPath, clearCache⟩

/-- Reads the section on the game. -/
def decode : Decoder GameSettings :=
  settingsSection "GameSettings"
    ["package", "pref_path", "push_temp_path", "export_temp_path", "clear_cache"] decodeFields

end GameSettings

namespace ClaimButton

/-- Reads the fields of a claim button. -/
def decodeFields (f : Fields) : Except Mismatch ClaimButton := do
  f.check [.of "name" text, .of "template" path, .of "delay" float64]
  let name ← f.required "name" text
  let template ← f.required "template" path
  let delay ← f.required "delay" float64
  pure ⟨name, template, delay⟩

/-- Reads a claim button. -/
def decode : Decoder ClaimButton
  | .record f => decodeFields f
  | .list items =>
    match decodeFields (Fields.positional ["name", "template", "delay"] items) with
    | .error (.missing _) => .error (.wrongLength items.length "struct ClaimButton with 3 elements")
    | result => result
  | d => .error (.wrongType d "struct ClaimButton")

end ClaimButton

namespace TemplateSettings

/-- Reads the fields of the section on templates. -/
def decodeFields (f : Fields) : Except Mismatch TemplateSettings := do
  f.check [.of "dir" path, .of "ready" (list path), .of "claim_buttons" (list ClaimButton.decode),
    .of "builtin_threshold" float32]
  let d : TemplateSettings := {}
  let dir ← f.withDefault "dir" path d.dir
  let ready ← f.withDefault "ready" (list path) d.ready
  let claimButtons ← f.withDefault "claim_buttons" (list ClaimButton.decode) d.claimButtons
  let builtinThreshold ← f.withDefault "builtin_threshold" float32 d.builtinThreshold
  pure ⟨dir, ready, claimButtons, builtinThreshold⟩

/-- Reads the section on templates. -/
def decode : Decoder TemplateSettings :=
  settingsSection "TemplateSettings" ["dir", "ready", "claim_buttons", "builtin_threshold"]
    decodeFields

end TemplateSettings

namespace TimingSettings

/-- The fields of the section on waiting times, in order. -/
def fieldNames : List String :=
  ["click_settle", "swipe_settle", "back_settle", "restart_stop_wait", "restart_start_wait",
    "find_all_gap", "screenshot_retry", "app_close_wait", "cache_clear_wait", "post_push_wait",
    "load_timeout", "ready_poll", "before_close_wait", "between_accounts", "join_timeout"]

/-- Reads the fields of the section on waiting times. -/
def decodeFields (f : Fields) : Except Mismatch TimingSettings := do
  f.check (fieldNames.map fun name => .of name float64)
  let d : TimingSettings := {}
  let clickSettle ← f.withDefault "click_settle" float64 d.clickSettle
  let swipeSettle ← f.withDefault "swipe_settle" float64 d.swipeSettle
  let backSettle ← f.withDefault "back_settle" float64 d.backSettle
  let restartStopWait ← f.withDefault "restart_stop_wait" float64 d.restartStopWait
  let restartStartWait ← f.withDefault "restart_start_wait" float64 d.restartStartWait
  let findAllGap ← f.withDefault "find_all_gap" float64 d.findAllGap
  let screenshotRetry ← f.withDefault "screenshot_retry" float64 d.screenshotRetry
  let appCloseWait ← f.withDefault "app_close_wait" float64 d.appCloseWait
  let cacheClearWait ← f.withDefault "cache_clear_wait" float64 d.cacheClearWait
  let postPushWait ← f.withDefault "post_push_wait" float64 d.postPushWait
  let loadTimeout ← f.withDefault "load_timeout" float64 d.loadTimeout
  let readyPoll ← f.withDefault "ready_poll" float64 d.readyPoll
  let beforeCloseWait ← f.withDefault "before_close_wait" float64 d.beforeCloseWait
  let betweenAccounts ← f.withDefault "between_accounts" float64 d.betweenAccounts
  let joinTimeout ← f.withDefault "join_timeout" float64 d.joinTimeout
  pure ⟨clickSettle, swipeSettle, backSettle, restartStopWait, restartStartWait, findAllGap,
    screenshotRetry, appCloseWait, cacheClearWait, postPushWait, loadTimeout, readyPoll,
    beforeCloseWait, betweenAccounts, joinTimeout⟩

/-- Reads the section on waiting times. -/
def decode : Decoder TimingSettings :=
  settingsSection "TimingSettings" fieldNames decodeFields

end TimingSettings

namespace ClaimSettings

/-- Reads the fields of the section on the claim routine. -/
def decodeFields (f : Fields) : Except Mismatch ClaimSettings := do
  f.check [.of "max_iterations" uint32, .of "miss_limit" uint32, .of "miss_wait" float64]
  let d : ClaimSettings := {}
  let maxIterations ← f.withDefault "max_iterations" uint32 d.maxIterations
  let missLimit ← f.withDefault "miss_limit" uint32 d.missLimit
  let missWait ← f.withDefault "miss_wait" float64 d.missWait
  pure ⟨maxIterations, missLimit, missWait⟩

/-- Reads the section on the claim routine. -/
def decode : Decoder ClaimSettings :=
  settingsSection "ClaimSettings" ["max_iterations", "miss_limit", "miss_wait"] decodeFields

end ClaimSettings

namespace QueueSettings

/-- Reads the fields of the section on the account queue. -/
def decodeFields (f : Fields) : Except Mismatch QueueSettings := do
  f.check [.of "move_on_complete" bool, .of "done_folder" (option path), .of "extension" text]
  let d : QueueSettings := {}
  let moveOnComplete ← f.withDefault "move_on_complete" bool d.moveOnComplete
  let doneFolder ← f.withDefault "done_folder" (option path) d.doneFolder
  let ext ← f.withDefault "extension" text d.extension
  pure ⟨moveOnComplete, doneFolder, ext⟩

/-- Reads the section on the account queue. -/
def decode : Decoder QueueSettings :=
  settingsSection "QueueSettings" ["move_on_complete", "done_folder", "extension"] decodeFields

end QueueSettings

namespace RecognitionSettings

/-- Reads the fields of the section on text recognition. -/
def decodeFields (f : Fields) : Except Mismatch RecognitionSettings := do
  f.check [.of "program" path, .of "lang" text, .of "psm" uint8, .of "contrast" float32,
    .of "match_threshold" float32]
  let d : RecognitionSettings := {}
  let program ← f.withDefault "program" path d.program
  let lang ← f.withDefault "lang" text d.lang
  let psm ← f.withDefault "psm" uint8 d.psm
  let contrast ← f.withDefault "contrast" float32 d.contrast
  let matchThreshold ← f.withDefault "match_threshold" float32 d.matchThreshold
  pure ⟨program, lang, psm, contrast, matchThreshold⟩

/-- Reads the section on text recognition. -/
def decode : Decoder RecognitionSettings :=
  settingsSection "OcrSettings" ["program", "lang", "psm", "contrast", "match_threshold"]
    decodeFields

end RecognitionSettings

namespace VisionSettings

/-- Reads the fields of the section on template matching. -/
def decodeFields (f : Fields) : Except Mismatch VisionSettings := do
  f.check [.of "scales" (list float32), .of "dedupe_radius" uint32, .of "max_matches" index,
    .of "coarse_factor" uint32]
  let d : VisionSettings := {}
  let scales ← f.withDefault "scales" (list float32) d.scales
  let dedupeRadius ← f.withDefault "dedupe_radius" uint32 d.dedupeRadius
  let maxMatches ← f.withDefault "max_matches" index d.maxMatches
  let coarseFactor ← f.withDefault "coarse_factor" uint32 d.coarseFactor
  pure ⟨scales, dedupeRadius, maxMatches, coarseFactor⟩

/-- Reads the section on template matching. -/
def decode : Decoder VisionSettings :=
  settingsSection "VisionSettings" ["scales", "dedupe_radius", "max_matches", "coarse_factor"]
    decodeFields

end VisionSettings

namespace Settings

/-- Reads all settings. -/
def decodeFields (f : Fields) : Except Mismatch Settings := do
  f.check [.of "adb" BridgeSettings.decode, .of "game" GameSettings.decode,
    .of "templates" TemplateSettings.decode, .of "timing" TimingSettings.decode,
    .of "claim" ClaimSettings.decode, .of "queue" QueueSettings.decode,
    .of "ocr" RecognitionSettings.decode, .of "vision" VisionSettings.decode]
  let bridge ← f.withDefault "adb" BridgeSettings.decode {}
  let game ← f.withDefault "game" GameSettings.decode {}
  let templates ← f.withDefault "templates" TemplateSettings.decode {}
  let timing ← f.withDefault "timing" TimingSettings.decode {}
  let claim ← f.withDefault "claim" ClaimSettings.decode {}
  let queue ← f.withDefault "queue" QueueSettings.decode {}
  let recognition ← f.withDefault "ocr" RecognitionSettings.decode {}
  let vision ← f.withDefault "vision" VisionSettings.decode {}
  pure ⟨bridge, game, templates, timing, claim, queue, recognition, vision⟩

/-- Reads all settings. -/
def decode : Decoder Settings :=
  settingsSection "Settings"
    ["adb", "game", "templates", "timing", "claim", "queue", "ocr", "vision"]
    decodeFields

/-- Why a text holds no settings. -/
inductive ReadError where
  /-- The text is not TOML. -/
  | notToml
  /-- The document holds no settings. -/
  | mismatch (m : Mismatch)

/-- The wording of a mismatch in settings. -/
def mismatchMessage (m : Mismatch) : String :=
  m.message Decimal.pointed

/-- Reads settings from their TOML text. -/
def ofToml (text : String) : Except ReadError Settings :=
  match Toml.read text with
  | none => .error .notToml
  | some d =>
    match decode d with
    | .ok s => .ok s
    | .error m => .error (.mismatch m)

end Settings

end Autoplay
