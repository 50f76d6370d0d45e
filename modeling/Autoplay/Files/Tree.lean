import Autoplay.Path
import Autoplay.SystemError

/-!
# File trees

A tree of files as a table from locations to what is there: a file with its text, a folder, or a
link to another path. `FileTree.resolve` finds the location that a path leads to. The main
statements say what is at a location after one entry was put in or taken out.
-/

namespace Autoplay

/-- The names on the way from the root to an entry. -/
abbrev Location := List String

/-- What can be at a location. -/
inductive FileEntry where
  /-- A file. -/
  | file (text : String)
  /-- A folder. -/
  | folder
  /-- A link to a path. -/
  | link (target : String)
deriving DecidableEq, Repr

namespace FileEntry

/-- Whether an entry is a folder. -/
def isFolder : FileEntry → Bool
  | .folder => true
  | _ => false

end FileEntry

/-- Files, folders and links. -/
structure FileTree where
  /-- What is where; the root itself is always a folder. -/
  entries : List (Location × FileEntry) := []
  /-- The folder from which relative paths start. -/
  workingFolder : Location := []

namespace FileTree

/-- What is at a location. -/
def lookup (t : FileTree) (l : Location) : Option FileEntry :=
  if l = [] then some .folder else (t.entries.find? fun e => e.1 = l).map (·.2)

/-- Puts an entry at a location, instead of what is there. -/
def put (t : FileTree) (l : Location) (e : FileEntry) : FileTree :=
  { t with entries := (l, e) :: t.entries.filter fun x => x.1 ≠ l }

/-- Takes out what is at a location. -/
def erase (t : FileTree) (l : Location) : FileTree :=
  { t with entries := t.entries.filter fun x => x.1 ≠ l }

/-- The names in a folder. -/
def names (t : FileTree) (l : Location) : List String :=
  t.entries.filterMap fun (m, _) => if m.dropLast = l then m.getLast? else none

/-- Whether nothing is in a folder. -/
def isEmptyFolder (t : FileTree) (l : Location) : Bool := (t.names l).isEmpty

/-- Takes out a location and everything below it. -/
def eraseTree (t : FileTree) (l : Location) : FileTree :=
  { t with entries := t.entries.filter fun x => !l.isPrefixOf x.1 }

/-- Puts everything at and below one location to another one. -/
def relocate (t : FileTree) (source dest : Location) : FileTree :=
  { t with
    entries := t.entries.map fun (l, e) =>
      if source.isPrefixOf l then (dest ++ l.drop source.length, e) else (l, e) }

/-- The names that a path leads through. A separator at the end asks for a folder, which is written
as a last step to the same place. -/
def steps (path : String) : List String :=
  let names := Path.parts path
  match path.toList.reverse with
  | '/' :: _ | '.' :: '/' :: _ | ['.'] => names ++ ["."]
  | _ => names

/-- The longest name in bytes. -/
def nameLimit : Nat := 255

/-- The number of links that one path may lead through. -/
def linkLimit : Nat := 40

/-- Walks on from a folder. The last step need not lead to anything, and a link there is only
followed when `follow` holds. -/
def walk (t : FileTree) (follow : Bool) (links : Nat) (here : Location) (way : List String) :
    Except SystemError Location :=
  match way with
  | [] => .ok here
  | name :: rest =>
    if name = "." then walk t follow links here rest
    else if name = ".." then walk t follow links here.dropLast rest
    else if nameLimit < name.utf8ByteSize then .error .nameTooLong
    else
      let there := here ++ [name]
      match t.lookup there with
      | none => if rest = [] then .ok there else .error .notFound
      | some .folder => walk t follow links there rest
      | some (.file _) => if rest = [] then .ok there else .error .notAFolder
      | some (.link target) =>
        if rest = [] ∧ !follow then .ok there
        else
          match links with
          | 0 => .error .tooManyLinks
          | links + 1 =>
            walk t follow links (if Path.isAbsolute target then [] else here) (steps target ++ rest)
termination_by (links, way.length)

/-- The location that a path leads to. -/
def resolve (t : FileTree) (follow : Bool) (path : String) : Except SystemError Location :=
  if path.isEmpty then .error .notFound
  else if path.toList.contains (Char.ofNat 0) then .error .invalidInput
  else walk t follow linkLimit (if Path.isAbsolute path then [] else t.workingFolder) (steps path)

/-- What a path leads to, links followed. -/
def find? (t : FileTree) (path : String) : Option FileEntry :=
  match t.resolve true path with
  | .ok l => t.lookup l
  | .error _ => none

/-- Leaving out the entries of one location does not change what is found at another one. -/
theorem find?_filter_ne {l m : Location} (h : m ≠ l) (es : List (Location × FileEntry)) :
    (es.filter fun x => x.1 ≠ l).find? (fun x => x.1 = m) = es.find? fun x => x.1 = m := by
  induction es with
  | nil => rfl
  | cons x es ih =>
    by_cases hx : x.1 = l
    · have hm : ¬ l = m := fun e => h e.symm
      simp_all
    · simp_all [List.find?_cons]

/-- After an entry was put in, it is there, and all else is as before. -/
theorem lookup_put (t : FileTree) (l m : Location) (e : FileEntry) (h : m ≠ []) :
    (t.put l e).lookup m = if m = l then some e else t.lookup m := by
  unfold lookup put
  by_cases hm : m = l
  · subst hm
    simp [h]
  · have hl : ¬ l = m := fun x => hm x.symm
    simp only [h, hm, if_false, List.find?_cons, hl, decide_false]
    rw [find?_filter_ne hm]

/-- Elsewhere all is as before. -/
theorem lookup_put_of_ne (t : FileTree) {l m : Location} (h : m ≠ l) (e : FileEntry) :
    (t.put l e).lookup m = t.lookup m := by
  by_cases hm : m = []
  · rw [hm, lookup, lookup, if_pos rfl, if_pos rfl]
  · rw [lookup_put t l m e hm, if_neg h]

/-- After a location was cleared nothing is there, and all else is as before. -/
theorem lookup_erase (t : FileTree) (l m : Location) (h : m ≠ []) :
    (t.erase l).lookup m = if m = l then none else t.lookup m := by
  unfold lookup erase
  by_cases hm : m = l
  · subst hm
    simp [h]
  · simp only [h, hm, if_false]
    rw [find?_filter_ne hm]

end FileTree

end Autoplay
