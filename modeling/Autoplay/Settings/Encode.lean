import Autoplay.Document.Basic
import Autoplay.Settings.Basic

/-!
# Writing settings

The document of settings: every section with every field, in order.
-/

namespace Autoplay

namespace BridgeSettings

/-- The document of the section on devices. -/
def encode (s : BridgeSettings) : Document :=
  .record [("program", .text s.program), ("command_timeout", .float s.commandTimeout),
    ("screenshot_timeout", .float s.screenshotTimeout),
    ("transfer_timeout", .float s.transferTimeout), ("connect_timeout", .float s.connectTimeout)]

end BridgeSettings

namespace GameSettings

/-- The document of the section on the game. -/
def encode (s : GameSettings) : Document :=
  .record [("package", .text s.package), ("pref_path", .text s.prefPath),
    ("push_temp_path", .text s.pushTempPath), ("export_temp_path", .text s.exportTempPath),
    ("clear_cache", .bool s.clearCache)]

end GameSettings

namespace ClaimButton

/-- The document of a claim button. -/
def encode (b : ClaimButton) : Document :=
  .record [("name", .text b.name), ("template", .text b.template), ("delay", .float b.delay)]

end ClaimButton

namespace TemplateSettings

/-- The document of the section on templates. -/
def encode (s : TemplateSettings) : Document :=
  .record [("dir", .text s.dir), ("ready", .list (s.ready.map .text)),
    ("claim_buttons", .list (s.claimButtons.map ClaimButton.encode)),
    ("builtin_threshold", .single s.builtinThreshold)]

end TemplateSettings

namespace TimingSettings

/-- The document of the section on waiting times. -/
def encode (s : TimingSettings) : Document :=
  .record [("click_settle", .float s.clickSettle), ("swipe_settle", .float s.swipeSettle),
    ("back_settle", .float s.backSettle), ("restart_stop_wait", .float s.restartStopWait),
    ("restart_start_wait", .float s.restartStartWait), ("find_all_gap", .float s.findAllGap),
    ("screenshot_retry", .float s.screenshotRetry), ("app_close_wait", .float s.appCloseWait),
    ("cache_clear_wait", .float s.cacheClearWait), ("post_push_wait", .float s.postPushWait),
    ("load_timeout", .float s.loadTimeout), ("ready_poll", .float s.readyPoll),
    ("before_close_wait", .float s.beforeCloseWait),
    ("between_accounts", .float s.betweenAccounts), ("join_timeout", .float s.joinTimeout)]

end TimingSettings

namespace ClaimSettings

/-- The document of the section on the claim routine. -/
def encode (s : ClaimSettings) : Document :=
  .record [("max_iterations", .integer s.maxIterations.toNat),
    ("miss_limit", .integer s.missLimit.toNat), ("miss_wait", .float s.missWait)]

end ClaimSettings

namespace QueueSettings

/-- The document of the section on the account queue. -/
def encode (s : QueueSettings) : Document :=
  .record [("move_on_complete", .bool s.moveOnComplete),
    ("done_folder", match s.doneFolder with | none => .null | some p => .text p),
    ("extension", .text s.extension)]

end QueueSettings

namespace RecognitionSettings

/-- The document of the section on text recognition. -/
def encode (s : RecognitionSettings) : Document :=
  .record [("program", .text s.program), ("lang", .text s.lang), ("psm", .integer s.psm.toNat),
    ("contrast", .single s.contrast), ("match_threshold", .single s.matchThreshold)]

end RecognitionSettings

namespace VisionSettings

/-- The document of the section on template matching. -/
def encode (s : VisionSettings) : Document :=
  .record [("scales", .list (s.scales.map .single)),
    ("dedupe_radius", .integer s.dedupeRadius.toNat),
    ("max_matches", .integer s.maxMatches.toNat),
    ("coarse_factor", .integer s.coarseFactor.toNat)]

end VisionSettings

namespace Settings

/-- The document of all settings. -/
def encode (s : Settings) : Document :=
  .record [("adb", s.bridge.encode), ("game", s.game.encode), ("templates", s.templates.encode),
    ("timing", s.timing.encode), ("claim", s.claim.encode), ("queue", s.queue.encode),
    ("ocr", s.recognition.encode), ("vision", s.vision.encode)]

end Settings

end Autoplay
