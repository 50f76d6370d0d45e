/-!
# Path texts

Paths are texts whose parts are separated by `/`. These are the questions that can be answered from
the text alone: its parts, its last name, the folder it lies in, its extension, and a path seen from
another one.
-/

namespace Autoplay.Path

/-- A path is absolute when it starts with a separator. -/
def isAbsolute (path : String) : Bool :=
  path.toList.head? == some '/'

/-- The pieces between separators; `part` holds the characters of the piece under way,
last first. -/
def piecesAfter (part : List Char) : List Char → List (List Char)
  | [] => [part.reverse]
  | c :: rest =>
    if c = '/' then part.reverse :: piecesAfter [] rest else piecesAfter (c :: part) rest

/-- The parts of a path that matter: empty pieces and `.` lead nowhere. -/
def parts (path : String) : List String :=
  ((piecesAfter [] path.toList).filter fun p => p ≠ [] && p ≠ ['.']).map String.ofList

/-- The last name of a path; `..` is no name. -/
def fileName? (path : String) : Option String :=
  match (parts path).getLast? with
  | some ".." => none
  | last => last

/-- Drops the separators and `.` parts at the end of a reversed path, as long as something else is
in front of them. -/
def trimEnd : List Char → List Char
  | '/' :: rest => if rest = [] then ['/'] else trimEnd rest
  | '.' :: '/' :: rest => if rest = [] then ['/'] else trimEnd rest
  | s => s

/-- The folder that the last part of a path lies in; the root and the empty path lie in none. -/
def parent? (path : String) : Option String :=
  let s := trimEnd path.toList.reverse
  if s = [] ∨ s = ['/'] then none
  else some (String.ofList (trimEnd (s.dropWhile (· ≠ '/'))).reverse)

/-- The part of a name behind its last point; a point in front of everything else does not count. -/
def extension? (path : String) : Option String := do
  let name ← fileName? path
  let s := name.toList.reverse
  let behind := s.takeWhile (· ≠ '.')
  match s.dropWhile (· ≠ '.') with
  | [] => none
  | [_] => none
  | _ => some (String.ofList behind.reverse)

/-- The path of `name` seen from `folder`; an absolute path is the same seen from anywhere. -/
def join (folder name : String) : String :=
  if isAbsolute name then name
  else if folder.isEmpty || folder.toList.getLast? == some '/' then folder ++ name
  else folder ++ "/" ++ name

end Autoplay.Path
