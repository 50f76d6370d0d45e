import Autoplay.Files.Operations
import Autoplay.Queue.Basic
import Autoplay.Settings.Basic

/-!
# Account files

Loading a queue from a folder, moving the file of a finished account to the folder for finished
ones, and deleting a broken file. An operation that fails leaves the queue as it was. Each is also
given what the system refuses it for reasons that the files do not show, by itself nothing.
-/

namespace Autoplay

namespace AccountQueue

/-- The extension of account files without points in front of it. -/
def bareExtension (s : QueueSettings) : String :=
  String.ofList (s.extension.toList.dropWhile (· == '.'))

/-- Small letters for large ones, as far as ASCII goes. -/
def asciiLower (s : String) : String := s.map Char.toLower

/-- Whether a path is that of an account file. -/
def isAccountFile (s : QueueSettings) (t : FileTree) (path : String) : Bool :=
  t.isFile path &&
    match Path.extension? path with
    | some e => asciiLower e == asciiLower (bareExtension s)
    | none => false

/-- The queue of the account files of a folder, unless listing it is refused. -/
def load (s : QueueSettings) (t : FileTree) (folder : String)
    (refusal : Option SystemError := none) : Except QueueError AccountQueue :=
  if !t.isFolder folder then .error (.invalidFolder folder)
  else
    match SystemError.refusing refusal (t.list folder) with
    | .error e => .error (.files .read folder e)
    | .ok names =>
      let wanted := names.filter fun n => isAccountFile s t (Path.join folder n)
      .ok { folder := some folder
            accounts := wanted.map fun n => { id := n, path := Path.join folder n } }

/-- The folder for the finished account of a file: the one of the settings, else one beside it. -/
def doneFolder (s : QueueSettings) (path : String) : String :=
  match s.doneFolder with
  | some folder => folder
  | none => Path.join ((Path.parent? path).getD ".") "done"

/-- Moves the file of an account to the folder for finished ones. The tree may have changed also
when that fails, since the folder is made first and moving may leave a copy. -/
def moveToDone (s : QueueSettings) (t : FileTree) (q : AccountQueue) (id : String)
    (refusals : FileTree.MoveRefusals := {}) :
    FileTree × Except QueueError (String × AccountQueue) :=
  match q.find? id with
  | none => (t, .error (.unknownAccount id))
  | some a =>
    let folder := doneFolder s a.path
    match t.makeFolders folder refusals.folder with
    | (prepared, .error e) => (prepared, .error (.files .create folder e))
    | (prepared, .ok ()) =>
      let dest := Path.join folder a.id
      match prepared.moveFile a.path dest refusals with
      | (left, .error e) => (left, .error (.files .move a.path e))
      | (moved, .ok ()) =>
        (moved, .ok (dest, { q with
          accounts := replace (fun a => { a with path := dest }) id q.accounts }))

/-- Deletes the file of a broken account, which is done with then; a file that is gone already is no
obstacle. -/
def delete (t : FileTree) (q : AccountQueue) (id : String) (refusal : Option SystemError := none) :
    Except QueueError (FileTree × AccountQueue) :=
  match q.find? id with
  | none => .error (.unknownAccount id)
  | some a =>
    match SystemError.refusing refusal (t.removeFile a.path) with
    | .error .notFound => (q.mark id .discarded).map fun done => (t, done)
    | .error e => .error (.files .delete a.path e)
    | .ok after => (q.mark id .discarded).map fun done => (after, done)

end AccountQueue

end Autoplay
