import Autoplay.Decimal.Notation
import Autoplay.Document.Decode
import Autoplay.Json.Reader
import Autoplay.Workflow.Basic

/-!
# Reading workflows

A workflow is read from a JSON document. Fields without a value count as missing, and most missing
fields have a value that holds then. The description and group of a step are read first, then the
kind of its action, then the fields of that kind; fields that the kind does not have do not matter.
A workflow and a region may also be written as the lists of their fields in order.
-/

namespace Autoplay

open Decoder

namespace Click

/-- Reads the fields of a tap. -/
def decode (f : Fields) : Except Mismatch Click := do
  f.check [.of "x" int32, .of "y" int32]
  let x ← f.required "x" int32
  let y ← f.required "y" int32
  pure ⟨x, y⟩

end Click

namespace Swipe

/-- Reads the fields of a swipe. -/
def decode (f : Fields) : Except Mismatch Swipe := do
  f.check [.of "x" int32, .of "y" int32, .of "end_x" int32, .of "end_y" int32,
    .of "swipe_duration_ms" uint64]
  let x ← f.required "x" int32
  let y ← f.required "y" int32
  let endX ← f.required "end_x" int32
  let endY ← f.required "end_y" int32
  let millis ← f.withDefault "swipe_duration_ms" uint64 300
  pure ⟨x, y, endX, endY, millis⟩

end Swipe

namespace Wait

/-- Reads the fields of a pause. -/
def decode (f : Fields) : Except Mismatch Wait := do
  f.check [.of "wait_duration_ms" uint64]
  let millis ← f.withDefault "wait_duration_ms" uint64 1000
  pure ⟨millis⟩

end Wait

namespace TemplateSearch

/-- Reads the fields of a template search. -/
def decode (f : Fields) : Except Mismatch TemplateSearch := do
  f.check [.of "template_path" path, .of "template_name" (option text),
    .of "threshold" float32, .of "match_all" bool, .of "skip_if_not_found" bool,
    .of "max_wait_seconds" float64, .of "max_retries" (option uint32),
    .of "retry_interval" float64]
  let templatePath ← f.required "template_path" path
  let templateName ← f.withDefault "template_name" (option text) none
  let threshold ← f.withDefault "threshold" float32 0.8
  let matchAll ← f.withDefault "match_all" bool false
  let skipIfNotFound ← f.withDefault "skip_if_not_found" bool false
  let maxWaitSeconds ← f.withDefault "max_wait_seconds" float64 10.0
  let maxRetries ← f.withDefault "max_retries" (option uint32) none
  let retryInterval ← f.withDefault "retry_interval" float64 1.0
  pure ⟨templatePath, templateName, threshold, matchAll, skipIfNotFound, maxWaitSeconds, maxRetries,
    retryInterval⟩

end TemplateSearch

namespace LoopClick

/-- Reads the fields of a tapping loop. -/
def decode (f : Fields) : Except Mismatch LoopClick := do
  f.check [.of "template_path" path, .of "threshold" float32, .of "max_iterations" uint32,
    .of "not_found_threshold" uint32, .of "click_delay" float64, .of "retry_delay" float64]
  let templatePath ← f.required "template_path" path
  let threshold ← f.withDefault "threshold" float32 0.8
  let maxIterations ← f.withDefault "max_iterations" uint32 20
  let notFoundThreshold ← f.withDefault "not_found_threshold" uint32 3
  let clickDelay ← f.withDefault "click_delay" float64 1.5
  let retryDelay ← f.withDefault "retry_delay" float64 2.0
  pure ⟨templatePath, threshold, maxIterations, notFoundThreshold, clickDelay, retryDelay⟩

end LoopClick

namespace ColorWait

/-- Reads the fields of a wait for a colour. -/
def decode (f : Fields) : Except Mismatch ColorWait := do
  f.check [.of "x" int32, .of "y" int32, .of "expected_color" (list uint8),
    .of "tolerance" uint32, .of "max_wait_seconds" float64, .of "check_interval" float64]
  let x ← f.required "x" int32
  let y ← f.required "y" int32
  let expectedColor ← f.withDefault "expected_color" (list uint8) [255, 255, 255]
  let tolerance ← f.withDefault "tolerance" uint32 30
  let maxWaitSeconds ← f.withDefault "max_wait_seconds" float64 30.0
  let checkInterval ← f.withDefault "check_interval" float64 1.0
  pure ⟨x, y, expectedColor, tolerance, maxWaitSeconds, checkInterval⟩

end ColorWait

namespace Condition

/-- The names of the conditions. -/
def names : List String := ["image_exists", "image_not_exists"]

/-- The name of a condition. -/
def name : Condition → String
  | .imageExists => "image_exists"
  | .imageNotExists => "image_not_exists"

/-- The condition of a name. -/
def ofName (s : String) : Except Mismatch Condition :=
  if s = "image_exists" then .ok .imageExists
  else if s = "image_not_exists" then .ok .imageNotExists
  else .error (.unknownName s names)

/-- Reads a condition: its name, or a record with its name as the only field and nothing in it. -/
def decode : Decoder Condition
  | .text s => ofName s
  | .record [(s, content)] => do
    let c ← ofName s
    match content with
    | .null => pure c
    | .record [] => pure c
    | d => throw (.wrongType d "unit")
  | .record _ => .error (.wrongValue (.record []) "map with a single key")
  | d => .error (.wrongType d "string or map")

end Condition

namespace Conditional

/-- Reads the fields of a conditional step. -/
def decode (f : Fields) : Except Mismatch Conditional := do
  f.check [.of "template_path" path, .of "threshold" float32,
    .of "condition_type" Condition.decode, .of "goto_step_on_true" (option index),
    .of "goto_step_on_false" (option index)]
  let templatePath ← f.required "template_path" path
  let threshold ← f.withDefault "threshold" float32 0.8
  let condition ← f.required "condition_type" Condition.decode
  let gotoOnTrue ← f.withDefault "goto_step_on_true" (option index) none
  let gotoOnFalse ← f.withDefault "goto_step_on_false" (option index) none
  pure ⟨templatePath, threshold, condition, gotoOnTrue, gotoOnFalse⟩

end Conditional

namespace App

/-- Reads the fields of a step about the game. -/
def decode (f : Fields) : Except Mismatch App := do
  f.check [.of "package" (option text)]
  let package ← f.withDefault "package" (option text) none
  pure ⟨package⟩

end App

namespace RepeatGroup

/-- Reads the fields of a step that repeats a group. -/
def decode (f : Fields) : Except Mismatch RepeatGroup := do
  f.check [.of "loop_group_name" (option text), .of "stop_template_path" (option path),
    .of "threshold" float32, .of "stop_on_not_found" bool, .of "loop_max_iterations" uint32]
  let group ← f.withDefault "loop_group_name" (option text) none
  let stopTemplatePath ← f.withDefault "stop_template_path" (option path) none
  let threshold ← f.withDefault "threshold" float32 0.8
  let stopOnNotFound ← f.withDefault "stop_on_not_found" bool true
  let maxIterations ← f.withDefault "loop_max_iterations" uint32 100
  pure ⟨group, stopTemplatePath, threshold, stopOnNotFound, maxIterations⟩

end RepeatGroup

namespace Region

/-- The fields of a region in order. -/
def fieldNames : List String := ["x", "y", "width", "height"]

/-- Reads the fields of a region. -/
def decodeFields (f : Fields) : Except Mismatch Region := do
  f.check [.of "x" uint32, .of "y" uint32, .of "width" uint32, .of "height" uint32]
  let x ← f.withDefault "x" uint32 320
  let y ← f.withDefault "y" uint32 140
  let width ← f.withDefault "width" uint32 320
  let height ← f.withDefault "height" uint32 60
  pure ⟨x, y, width, height⟩

/-- Reads a region. -/
def decode : Decoder Region
  | .record f => decodeFields f
  | .list items => do
    let r ← decodeFields (Fields.positional fieldNames items)
    if items.length ≤ 4 then pure r
    else throw (.wrongLength items.length "4 elements in sequence")
  | d => .error (.wrongType d "struct OcrRegion")

end Region

namespace GachaCheck

/-- Reads the fields of a look at what was drawn. -/
def decode (f : Fields) : Except Mismatch GachaCheck := do
  f.check [.of "ocr_region" (option Region.decode), .of "target_characters" (list text),
    .of "gacha_save_folder" (option path)]
  let region ← f.withDefault "ocr_region" (option Region.decode) none
  let targets ← f.withDefault "target_characters" (list text) []
  let saveFolder ← f.withDefault "gacha_save_folder" (option path) none
  pure ⟨region, targets, saveFolder⟩

end GachaCheck

namespace Action

/-- The kind that a document names, by its name or its number. -/
def decodeKind : Decoder String
  | .text s => if s ∈ kinds then .ok s else .error (.unknownName s kinds)
  | .integer n =>
    if n < 0 then .error (.wrongType (.integer n) "variant identifier")
    else
      match kinds[n.toNat]? with
      | some s => .ok s
      | none => .error (.wrongValue (.integer n) "variant index 0 <= i < 13")
  | d => .error (.wrongType d "variant identifier")

/-- Reads the fields of an action of a known kind. -/
def decodeFields (kind : String) (f : Fields) : Except Mismatch Action :=
  if kind = "click" then (Click.decode f).map .click
  else if kind = "swipe" then (Swipe.decode f).map .swipe
  else if kind = "wait" then (Wait.decode f).map .wait
  else if kind = "image_match" then (TemplateSearch.decode f).map .imageMatch
  else if kind = "find_all_click" then (TemplateSearch.decode f).map .findAllClick
  else if kind = "loop_click" then (LoopClick.decode f).map .loopClick
  else if kind = "wait_for_color" then (ColorWait.decode f).map .waitForColor
  else if kind = "press_back" then .ok .pressBack
  else if kind = "conditional" then (Conditional.decode f).map .conditional
  else if kind = "start_game" then (App.decode f).map .startGame
  else if kind = "restart_game" then (App.decode f).map .restartGame
  else if kind = "repeat_group" then (RepeatGroup.decode f).map .repeatGroup
  else (GachaCheck.decode f).map .gachaCheck

/-- Reads an action. -/
def decode (f : Fields) : Except Mismatch Action := do
  let kind ← f.required "step_type" decodeKind
  decodeFields kind f

end Action

namespace Step

/-- Reads the fields of a step. -/
def decodeFields (f : Fields) : Except Mismatch Step := do
  f.check [.of "description" text, .of "group_name" (option text)]
  let action ← Action.decode f
  let description ← f.withDefault "description" text ""
  let group ← f.withDefault "group_name" (option text) none
  pure ⟨description, group, action⟩

/-- Reads a step. -/
def decode : Decoder Step
  | .record f => decodeFields f
  | d => .error (.wrongType d "struct WorkflowStep")

end Step

namespace Workflow

/-- The fields of a workflow in order. -/
def fieldNames : List String :=
  ["id", "name", "description", "screen_width", "screen_height", "valid_from", "valid_until",
    "is_master", "mode_name", "month_year", "updated_at", "steps"]

/-- Reads the fields of a workflow. -/
def decodeFields (f : Fields) : Except Mismatch Workflow := do
  f.check [.of "id" (option int64), .of "name" text, .of "description" text,
    .of "screen_width" uint32, .of "screen_height" uint32, .of "valid_from" (option moment),
    .of "valid_until" (option moment), .of "is_master" bool, .of "mode_name" (option text),
    .of "month_year" (option text), .of "updated_at" (option moment),
    .of "steps" (list Step.decode)]
  let id ← f.withDefault "id" (option int64) none
  let name ← f.withDefault "name" text ""
  let description ← f.withDefault "description" text ""
  let screenWidth ← f.withDefault "screen_width" uint32 960
  let screenHeight ← f.withDefault "screen_height" uint32 540
  let validFrom ← f.withDefault "valid_from" (option moment) none
  let validUntil ← f.withDefault "valid_until" (option moment) none
  let isMaster ← f.withDefault "is_master" bool false
  let modeName ← f.withDefault "mode_name" (option text) none
  let monthYear ← f.withDefault "month_year" (option text) none
  let updatedAt ← f.withDefault "updated_at" (option moment) none
  let steps ← f.withDefault "steps" (list Step.decode) []
  pure ⟨id, name, description, screenWidth, screenHeight, validFrom, validUntil, isMaster, modeName,
    monthYear, updatedAt, steps⟩

/-- Reads a workflow. -/
def decode : Decoder Workflow
  | .record f => decodeFields f
  | .list items => do
    let w ← decodeFields (Fields.positional fieldNames items)
    if items.length ≤ 12 then pure w
    else throw (.wrongLength items.length "fewer elements in array")
  | d => .error (.wrongType d "struct Workflow")

/-- Why a text is not a workflow. -/
inductive ReadError where
  /-- The text is not JSON. -/
  | notJson
  /-- The document is not a workflow. -/
  | mismatch (m : Mismatch)

/-- The wording of a mismatch in a workflow. -/
def mismatchMessage (m : Mismatch) : String :=
  m.message Decimal.data

/-- Reads a workflow from its JSON text. -/
def ofJson (text : String) : Except ReadError Workflow :=
  match Json.read text with
  | none => .error .notJson
  | some d =>
    match decode d.dropNulls with
    | .ok w => .ok w
    | .error m => .error (.mismatch m)

end Workflow

end Autoplay
