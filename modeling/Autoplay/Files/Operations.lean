import Autoplay.Files.Tree

/-!
# Operations on files

Questions about paths, reading and writing, making and removing folders, and moving a file from one
path to another. Each operation gives the tree after it or says why it fails; those that take
several steps may have changed the tree also when they fail, and give it in any case. What the
system refuses for reasons that the tree does not show is said beside: to making folders and to
moving a file, of whose steps any may be refused.
-/

namespace Autoplay

namespace FileTree

/-- Whether a path leads to anything, links followed. -/
def exists? (t : FileTree) (path : String) : Bool := (t.find? path).isSome

/-- Whether a path leads to a folder, links followed. -/
def isFolder (t : FileTree) (path : String) : Bool :=
  match t.find? path with
  | some e => e.isFolder
  | none => false

/-- Whether a path leads to a file, links followed. -/
def isFile (t : FileTree) (path : String) : Bool :=
  match t.find? path with
  | some (.file _) => true
  | _ => false

/-- The text of a file. -/
def readText (t : FileTree) (path : String) : Except SystemError String := do
  let l ← t.resolve true path
  match t.lookup l with
  | some (.file text) => .ok text
  | some _ => .error .isAFolder
  | none => .error .notFound

/-- The names in a folder, sorted. -/
def list (t : FileTree) (path : String) : Except SystemError (List String) := do
  let l ← t.resolve true path
  match t.lookup l with
  | some .folder => .ok ((t.names l).mergeSort fun a b => !(b < a))
  | some _ => .error .notAFolder
  | none => .error .notFound

/-- Writes a file, a new one or instead of the text that it has. -/
def writeText (t : FileTree) (path text : String) : Except SystemError FileTree := do
  let l ← t.resolve true path
  match t.lookup l with
  | some .folder => .error .isAFolder
  | _ => .ok (t.put l (.file text))

/-- Makes a link. -/
def makeLink (t : FileTree) (path target : String) : Except SystemError FileTree := do
  let l ← t.resolve false path
  match t.lookup l with
  | some _ => .error .alreadyExists
  | none => .ok (t.put l (.link target))

/-- The path without separators and steps to the same place at its end. -/
def bare (path : String) : String :=
  String.ofList (Path.trimEnd path.toList.reverse).reverse

/-- Makes one folder. -/
def makeFolder (t : FileTree) (path : String) : Except SystemError FileTree := do
  let l ← t.resolve false (bare path)
  match t.lookup l with
  | some _ => .error .alreadyExists
  | none => .ok (t.put l .folder)

/-- Makes a folder and those that it lies in, as far as they are missing and not refused; `depth`
bounds how many those are. Folders that were made stay also when another one cannot be made. -/
def makeFoldersWithin (t : FileTree) (refuses : String → Option SystemError) :
    Nat → String → FileTree × Except SystemError Unit
  | 0, _ => (t, .error .invalidInput)
  | depth + 1, path =>
    if path.isEmpty then (t, .ok ())
    else
      match t.makeFolder path with
      | .ok after =>
        match refuses path with
        | none => (after, .ok ())
        | some e => (t, .error e)
      | .error .notFound =>
        match Path.parent? path with
        | none => (t, .error .invalidInput)
        | some parent =>
          match t.makeFoldersWithin refuses depth parent with
          | (after, .error e) => (after, .error e)
          | (after, .ok ()) =>
            match SystemError.refusing (refuses path) (after.makeFolder path) with
            | .ok done => (done, .ok ())
            | .error e => (after, if after.isFolder path then .ok () else .error e)
      | .error e => (t, if t.isFolder path then .ok () else .error e)

/-- Makes a folder and those that it lies in, as far as they are missing and not refused. -/
def makeFolders (t : FileTree) (path : String)
    (refuses : String → Option SystemError := fun _ => none) : FileTree × Except SystemError Unit :=
  t.makeFoldersWithin refuses (path.length + 1) path

/-- Removes a file or a link. -/
def removeFile (t : FileTree) (path : String) : Except SystemError FileTree := do
  let l ← t.resolve false path
  match t.lookup l with
  | none => .error .notFound
  | some .folder => .error .isAFolder
  | some _ => .ok (t.erase l)

/-- Removes a file, a link, or a folder with everything in it. -/
def removeTree (t : FileTree) (path : String) : Except SystemError FileTree := do
  let l ← t.resolve false path
  match t.lookup l with
  | none => .error .notFound
  | some _ => .ok (t.eraseTree l)

/-- Gives an entry another path. What is there already gives way: a file to a file, an empty folder
to a folder. -/
def rename (t : FileTree) (source dest : String) : Except SystemError FileTree := do
  let old ← t.resolve false source
  let new ← t.resolve false dest
  match t.lookup old with
  | none => .error .notFound
  | some moved =>
    if old = new then .ok t
    else if old.isPrefixOf new then .error .invalidInput
    else if new.isPrefixOf old then .error .folderNotEmpty
    else
      match moved, t.lookup new with
      | .folder, some .folder =>
        if t.isEmptyFolder new then .ok ((t.erase new).relocate old new) else .error .folderNotEmpty
      | .folder, some _ => .error .notAFolder
      | _, some .folder => .error .isAFolder
      | _, _ => .ok ((t.erase new).relocate old new)

/-- Where a file is copied to, links followed, and the text that it has there then: a file that is
copied onto itself is emptied. -/
def copyTarget (t : FileTree) (source dest : String) : Except SystemError (Location × String) := do
  let old ← t.resolve true source
  match t.lookup old with
  | none => .error .notFound
  | some (.file text) =>
    let new ← t.resolve true dest
    match t.lookup new with
    | some .folder => .error .isAFolder
    | _ => .ok (new, if old = new then "" else text)
  | some _ => .error .invalidInput

/-- How the copying of a file fails for reasons of the system's own. -/
inductive CopyFailure where
  /-- One of the two files is not opened. -/
  | refused (reason : SystemError)
  /-- The copy breaks off after some characters. -/
  | broken (reason : SystemError) (length : Nat)
deriving DecidableEq, Repr

/-- Copies the text of a file. Of a copy that breaks off its first part stays. -/
def copyFile (t : FileTree) (source dest : String) (failure : Option CopyFailure) :
    FileTree × Except SystemError Unit :=
  match t.copyTarget source dest, failure with
  | .error e, _ => (t, .error e)
  | .ok _, some (.refused e) => (t, .error e)
  | .ok (l, text), some (.broken e length) =>
    (t.put l (.file (String.ofList (text.toList.take length))), .error e)
  | .ok (l, text), none => (t.put l (.file text), .ok ())

/-- What the system refuses while a file is moved, for reasons of its own; by itself nothing. -/
structure MoveRefusals where
  /-- To make the folder of a path. -/
  folder : String → Option SystemError := fun _ => none
  /-- To rename the file. -/
  rename : Option SystemError := none
  /-- To copy the file, or to copy it to its end. -/
  copy : Option CopyFailure := none
  /-- To remove the file after it was copied. -/
  remove : Option SystemError := none

/-- Moves a file: it gets its new path, or, where that does not work and it is still there, it is
copied and removed. A copy stays also when it breaks off, and when the file itself cannot be
removed. -/
def moveFile (t : FileTree) (source dest : String) (refusals : MoveRefusals := {}) :
    FileTree × Except SystemError Unit :=
  match SystemError.refusing refusals.rename (t.rename source dest) with
  | .ok after => (after, .ok ())
  | .error e =>
    if t.exists? source then
      match t.copyFile source dest refusals.copy with
      | (left, .error e) => (left, .error e)
      | (copied, .ok ()) =>
        match SystemError.refusing refusals.remove (copied.removeFile source) with
        | .error e => (copied, .error e)
        | .ok after => (after, .ok ())
    else (t, .error e)

/-- The paths of everything below a location, seen from there, folders with a separator at the end,
sorted. -/
def listing (t : FileTree) (l : Location) : List String :=
  let below := t.entries.filterMap fun (m, e) =>
    if l.isPrefixOf m ∧ l ≠ m then
      some ("/".intercalate (m.drop l.length) ++ (if e.isFolder then "/" else ""))
    else none
  below.mergeSort fun a b => !(b < a)

end FileTree

end Autoplay
