import Autoplay.Json.Writer
import Autoplay.Workflow.Decode

/-!
# Writing workflows

The document of a workflow: every field in its fixed order, fields without a value as `null`. The
fields of a step's action stand beside its description and group, behind the kind of the action.
-/

namespace Autoplay

namespace Document

/-- The document of a value that may be missing. -/
def ofOption {α : Type} (f : α → Document) : Option α → Document
  | none => .null
  | some a => f a

end Document

open Document

namespace Region

/-- The document of a region. -/
def encode (r : Region) : Document :=
  .record [("x", .integer r.x.toNat), ("y", .integer r.y.toNat), ("width", .integer r.width.toNat),
    ("height", .integer r.height.toNat)]

end Region

namespace TemplateSearch

/-- The fields of a template search. -/
def encode (s : TemplateSearch) : Fields :=
  [("template_path", .text s.templatePath), ("template_name", ofOption .text s.templateName),
    ("threshold", .single s.threshold), ("match_all", .bool s.matchAll),
    ("skip_if_not_found", .bool s.skipIfNotFound), ("max_wait_seconds", .float s.maxWaitSeconds),
    ("max_retries", ofOption (fun n : UInt32 => .integer n.toNat) s.maxRetries),
    ("retry_interval", .float s.retryInterval)]

end TemplateSearch

namespace Action

/-- The fields of an action. -/
def encodeFields : Action → Fields
  | .click s => [("x", .integer s.x.toInt), ("y", .integer s.y.toInt)]
  | .swipe s =>
    [("x", .integer s.x.toInt), ("y", .integer s.y.toInt), ("end_x", .integer s.endX.toInt),
      ("end_y", .integer s.endY.toInt), ("swipe_duration_ms", .integer s.millis.toNat)]
  | .wait s => [("wait_duration_ms", .integer s.millis.toNat)]
  | .imageMatch s => s.encode
  | .findAllClick s => s.encode
  | .loopClick s =>
    [("template_path", .text s.templatePath), ("threshold", .single s.threshold),
      ("max_iterations", .integer s.maxIterations.toNat),
      ("not_found_threshold", .integer s.notFoundThreshold.toNat),
      ("click_delay", .float s.clickDelay), ("retry_delay", .float s.retryDelay)]
  | .waitForColor s =>
    [("x", .integer s.x.toInt), ("y", .integer s.y.toInt),
      ("expected_color", .list (s.expectedColor.map fun c => .integer c.toNat)),
      ("tolerance", .integer s.tolerance.toNat), ("max_wait_seconds", .float s.maxWaitSeconds),
      ("check_interval", .float s.checkInterval)]
  | .pressBack => []
  | .conditional s =>
    [("template_path", .text s.templatePath), ("threshold", .single s.threshold),
      ("condition_type", .text s.condition.name),
      ("goto_step_on_true", ofOption (fun n : UInt64 => .integer n.toNat) s.gotoOnTrue),
      ("goto_step_on_false", ofOption (fun n : UInt64 => .integer n.toNat) s.gotoOnFalse)]
  | .startGame s => [("package", ofOption .text s.package)]
  | .restartGame s => [("package", ofOption .text s.package)]
  | .repeatGroup s =>
    [("loop_group_name", ofOption .text s.group),
      ("stop_template_path", ofOption .text s.stopTemplatePath),
      ("threshold", .single s.threshold), ("stop_on_not_found", .bool s.stopOnNotFound),
      ("loop_max_iterations", .integer s.maxIterations.toNat)]
  | .gachaCheck s =>
    [("ocr_region", ofOption Region.encode s.region),
      ("target_characters", .list (s.targets.map .text)),
      ("gacha_save_folder", ofOption .text s.saveFolder)]

end Action

namespace Step

/-- The document of a step. -/
def encode (s : Step) : Document :=
  .record (("description", .text s.description) :: ("group_name", ofOption .text s.group)
    :: ("step_type", .text s.action.kind) :: s.action.encodeFields)

end Step

namespace Workflow

/-- The document of a workflow. -/
def encode (w : Workflow) : Document :=
  .record
    [("id", ofOption (fun n : Int64 => .integer n.toInt) w.id), ("name", .text w.name),
      ("description", .text w.description), ("screen_width", .integer w.screenWidth.toNat),
      ("screen_height", .integer w.screenHeight.toNat),
      ("valid_from", ofOption (fun m : Moment => .text m.text) w.validFrom),
      ("valid_until", ofOption (fun m : Moment => .text m.text) w.validUntil),
      ("is_master", .bool w.isMaster), ("mode_name", ofOption .text w.modeName),
      ("month_year", ofOption .text w.monthYear),
      ("updated_at", ofOption (fun m : Moment => .text m.text) w.updatedAt),
      ("steps", .list (w.steps.map Step.encode))]

/-- The JSON text of a workflow. -/
def toJson (w : Workflow) : String :=
  Json.write w.encode

end Workflow

end Autoplay
