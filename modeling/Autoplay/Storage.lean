import Autoplay.Files.Operations
import Autoplay.Settings.Decode
import Autoplay.Workflow.Decode

/-!
# Settings and workflows in files

Loading settings and workflows from files. A settings file that is not there stands for the usual
settings. Of a folder of workflows those that cannot be read are left out.
-/

namespace Autoplay

/-- Why something cannot be loaded from a path. -/
inductive LoadError where
  /-- The settings file cannot be read. -/
  | unreadableSettings (path : String) (reason : SystemError)
  /-- The text of the settings file holds no settings. -/
  | invalidSettings (path : String) (reason : Settings.ReadError)
  /-- The workflow file cannot be read. -/
  | unreadableWorkflow (path : String) (reason : SystemError)
  /-- The text of the workflow file holds no workflow. -/
  | invalidWorkflow (path : String) (reason : Workflow.ReadError)
  /-- The folder of workflows cannot be listed. -/
  | unlistableFolder (path : String) (reason : SystemError)

/-- The wording of an error. -/
def LoadError.message : LoadError → String
  | .unreadableSettings path _ => "failed to read config at " ++ path
  | .invalidSettings path _ => "invalid config at " ++ path
  | .unreadableWorkflow path _ => "failed to read workflow " ++ path
  | .invalidWorkflow path _ => "invalid workflow " ++ path
  | .unlistableFolder path _ => "failed to list workflows in " ++ path

/-- The settings of a file, or the usual ones if there is none. -/
def Settings.load (t : FileTree) (path : String) : Except LoadError Settings :=
  if !t.exists? path then .ok {}
  else
    match t.readText path with
    | .error e => .error (.unreadableSettings path e)
    | .ok text =>
      match Settings.ofToml text with
      | .error e => .error (.invalidSettings path e)
      | .ok s => .ok s

namespace Workflow

/-- The workflow of a file. -/
def load (t : FileTree) (path : String) : Except LoadError Workflow :=
  match t.readText path with
  | .error e => .error (.unreadableWorkflow path e)
  | .ok text =>
    match ofJson text with
    | .error e => .error (.invalidWorkflow path e)
    | .ok w => .ok w

/-- The workflows of a folder by the names of their files, those left out that cannot be read. -/
def loadFolder (t : FileTree) (folder : String) : Except LoadError (List Workflow) :=
  match t.list folder with
  | .error e => .error (.unlistableFolder folder e)
  | .ok names =>
    let paths := (names.map (Path.join folder)).filter fun p => Path.extension? p == some "json"
    .ok (paths.filterMap fun p => (load t p).toOption)

end Workflow

end Autoplay
