import Autoplay.Path

/-!
# Settings

Everything about a run that is not in its workflow: programs and their time limits, the game, the
templates, every waiting time, the limits of the built-in claim routine, the account queue, text
recognition and template matching. Each field has a value that holds when the settings file does not
give one.
-/

namespace Autoplay

/-- The program that drives the devices, and how long (in seconds) its commands may take. -/
structure BridgeSettings where
  /-- Program to start. -/
  program : String := "adb"
  /-- Limit for input and shell commands. -/
  commandTimeout : Float := 10.0
  /-- Limit for a screenshot. -/
  screenshotTimeout : Float := 10.0
  /-- Limit for copying a file to or from a device. -/
  transferTimeout : Float := 30.0
  /-- Limit for listing and connecting devices. -/
  connectTimeout : Float := 5.0
deriving BEq

/-- The game and where it keeps its account file. -/
structure GameSettings where
  /-- Package name of the game. -/
  package : String := "com.linecorp.LGRGS"
  /-- Account file of the game on the device. -/
  prefPath : String := "/data/data/com.linecorp.LGRGS/shared_prefs/_LINE_COCOS_PREF_KEY.xml"
  /-- Where an account file is put before it is copied into place. -/
  pushTempPath : String := "/sdcard/_temp_lr_account.xml"
  /-- Where an account file is put before it is exported. -/
  exportTempPath : String := "/sdcard/_temp_gacha_export.xml"
  /-- Whether the cache is emptied between accounts. -/
  clearCache : Bool := true
deriving BEq

namespace GameSettings

/-- The name of the account file: what follows the last `/`, or a fixed name if that is empty. -/
def prefFileName (g : GameSettings) : String :=
  let name := (g.prefPath.toList.reverse.takeWhile (· ≠ '/')).reverse
  if name = [] then "account.xml" else String.ofList name

end GameSettings

/-- A button of the claim routine. -/
structure ClaimButton where
  /-- Name for messages. -/
  name : String
  /-- Template of the button. -/
  template : String
  /-- Seconds to wait after a tap. -/
  delay : Float
deriving BEq

/-- Templates that are known without a workflow. -/
structure TemplateSettings where
  /-- Folder that relative template paths start from. -/
  dir : String := "templates"
  /-- Any of these shows that the game has loaded. -/
  ready : List String := ["giftbox.png", "close.png", "ok.png"]
  /-- Buttons of the claim routine, the most urgent first. -/
  claimButtons : List ClaimButton :=
    [⟨"close", "close.png", 1.5⟩, ⟨"giftbox", "giftbox.png", 2.0⟩,
      ⟨"accept_all", "accept_all.png", 2.0⟩, ⟨"ok", "ok.png", 1.5⟩]
  /-- Least score that counts as a hit for these templates. -/
  builtinThreshold : Float32 := 0.6
deriving BEq

/-- Waiting times in seconds. -/
structure TimingSettings where
  /-- After a tap. -/
  clickSettle : Float := 0.3
  /-- After a swipe. -/
  swipeSettle : Float := 0.5
  /-- After the back key. -/
  backSettle : Float := 0.5
  /-- Between stopping and starting the game in a restart. -/
  restartStopWait : Float := 1.0
  /-- After starting the game in a restart. -/
  restartStartWait : Float := 3.0
  /-- Between the taps on several hits. -/
  findAllGap : Float := 0.3
  /-- After a failed screenshot. -/
  screenshotRetry : Float := 1.0
  /-- After closing the game. -/
  appCloseWait : Float := 2.0
  /-- After emptying the cache. -/
  cacheClearWait : Float := 1.0
  /-- After the account file is in place. -/
  postPushWait : Float := 2.0
  /-- Longest wait for the game to load. -/
  loadTimeout : Float := 60.0
  /-- Between two looks whether the game has loaded. -/
  readyPoll : Float := 2.0
  /-- Before the game is closed at the end. -/
  beforeCloseWait : Float := 2.0
  /-- Between two accounts. -/
  betweenAccounts : Float := 2.0
  /-- Longest wait for the workers to end when they are stopped. -/
  joinTimeout : Float := 5.0
deriving BEq

/-- Limits of the claim routine. -/
structure ClaimSettings where
  /-- Greatest number of looks. -/
  maxIterations : UInt32 := 20
  /-- Number of looks in a row without a button that end the routine. -/
  missLimit : UInt32 := 3
  /-- Seconds to wait after such a look. -/
  missWait : Float := 2.0
deriving BEq

/-- The account queue. -/
structure QueueSettings where
  /-- Whether the file of a finished account is moved away. -/
  moveOnComplete : Bool := true
  /-- Where to; a folder beside the file if there is none. -/
  doneFolder : Option String := none
  /-- Extension of account files. -/
  extension : String := "xml"
deriving BEq

/-- Text recognition. -/
structure RecognitionSettings where
  /-- Program to start. -/
  program : String := "tesseract"
  /-- Language code. -/
  lang : String := "eng"
  /-- Page segmentation mode. -/
  psm : UInt8 := 7
  /-- Contrast factor applied to the picture first. -/
  contrast : Float32 := 2.0
  /-- Least similarity at which a name counts as recognised. -/
  matchThreshold : Float32 := 0.6
deriving BEq

/-- Template matching. -/
structure VisionSettings where
  /-- Sizes at which a template is tried. -/
  scales : List Float32 := [1.0]
  /-- Hits that are nearer to each other than this are one hit. -/
  dedupeRadius : UInt32 := 20
  /-- Greatest number of hits. -/
  maxMatches : UInt64 := 50
  /-- How much screen and template are shrunk for the first search. -/
  coarseFactor : UInt32 := 4
deriving BEq

/-- All settings. -/
structure Settings where
  /-- Devices. -/
  bridge : BridgeSettings := {}
  /-- Game. -/
  game : GameSettings := {}
  /-- Templates. -/
  templates : TemplateSettings := {}
  /-- Waiting times. -/
  timing : TimingSettings := {}
  /-- Claim routine. -/
  claim : ClaimSettings := {}
  /-- Account queue. -/
  queue : QueueSettings := {}
  /-- Text recognition. -/
  recognition : RecognitionSettings := {}
  /-- Template matching. -/
  vision : VisionSettings := {}
deriving BEq

namespace Settings

/-- A template's path: relative ones start from the template folder. -/
def templatePath (s : Settings) (name : String) : String :=
  Path.join s.templates.dir name

end Settings

end Autoplay
