import Autoplay.Document.Basic

/-!
# Tables under construction

While a TOML text is read, a table remembers how it came about, because that decides what may still
be added to it: by a header of its own, only as part of a longer header, or by dotted keys. A table
of an array of tables counts as headed.
-/

namespace Autoplay.Toml

/-- How a table came about. -/
inductive Origin where
  /-- By a header of its own. -/
  | headed
  /-- As part of a longer header. -/
  | implied
  /-- By dotted keys. -/
  | dotted
deriving DecidableEq, Repr

/-- What stands under a name. -/
inductive Entry where
  /-- A finished value. -/
  | value (d : Document)
  /-- A table. -/
  | table (origin : Origin) (fields : List (String × Entry))
  /-- An array of tables, last one first. -/
  | tables (items : List (List (String × Entry)))

namespace Entry

/-- What stands under a name. -/
def find? (name : String) : List (String × Entry) → Option Entry
  | [] => none
  | (key, e) :: rest => if key = name then some e else find? name rest

/-- Replaces what stands under a name, or adds it at the end. -/
def set (name : String) (e : Entry) : List (String × Entry) → List (String × Entry)
  | [] => [(name, e)]
  | (key, old) :: rest => if key = name then (key, e) :: rest else (key, old) :: set name e rest

/-- Visits the table at the end of a path, `none` if the path leads through something that may not
be extended. Missing tables are made; `origin` tells how the path is written. The visit may change
the table and bring something back. -/
def visit {α : Type} (origin : Origin)
    (change : Origin → List (String × Entry) → Option (α × List (String × Entry))) :
    List String → Origin → List (String × Entry) → Option (α × List (String × Entry))
  | [], here, fields => change here fields
  | name :: path, _, fields =>
    match find? name fields with
    | none =>
      (visit origin change path origin []).map fun (a, t) => (a, set name (.table origin t) fields)
    | some (.value _) => none
    | some (.tables []) => none
    | some (.tables (last :: before)) =>
      (visit origin change path .headed last).map fun (a, t) =>
        (a, set name (.tables (t :: before)) fields)
    | some (.table was t) =>
      if origin = .dotted ∧ was = .headed then none
      else
        (visit origin change path was t).map fun (a, t) => (a, set name (.table was t) fields)

/-- Adds a value under a dotted key: the names in front of the last lead to a table made by dotted
keys, and the last one must be new. -/
def addValue (path : List String) (name : String) (d : Document) (fields : List (String × Entry)) :
    Option (List (String × Entry)) :=
  (visit .dotted (fun here t =>
    if decide (here = .dotted) == path.isEmpty then none
    else
      match find? name t with
      | none => some ((), set name (.value d) t)
      | some _ => none) path .headed fields).map (·.2)

mutual

/-- The document of what stands under a name. -/
def toDocument : Entry → Document
  | .value d => d
  | .table _ fields => .record (toFields fields)
  | .tables items => .list (toRecords items).reverse

/-- The fields of a table. -/
def toFields : List (String × Entry) → List (String × Document)
  | [] => []
  | (name, e) :: rest => (name, toDocument e) :: toFields rest

/-- The tables of an array. -/
def toRecords : List (List (String × Entry)) → List Document
  | [] => []
  | t :: rest => .record (toFields t) :: toRecords rest

end

end Entry

/-- A TOML text under reading: the finished tables, and the table whose lines are being read. -/
structure Builder where
  /-- The finished tables. -/
  root : List (String × Entry)
  /-- Where the current table belongs; empty for the fields in front of the first header. -/
  path : List String
  /-- Whether the current table is an item of an array of tables. -/
  inArray : Bool
  /-- The current table. -/
  current : List (String × Entry)

namespace Builder

/-- Puts the current table in its place. -/
def close (b : Builder) : Option (List (String × Entry)) :=
  match b.path.getLast? with
  | none => some b.current
  | some name =>
    (Entry.visit .implied (fun _ t =>
      match b.inArray, Entry.find? name t with
      | false, none => some ((), Entry.set name (.table .headed b.current) t)
      | true, some (.tables items) => some ((), Entry.set name (.tables (b.current :: items)) t)
      | _, _ => none) b.path.dropLast .headed b.root).map (·.2)

/-- Adds a line `key = value` to the current table. -/
def addValue (b : Builder) (path : List String) (name : String) (d : Document) : Option Builder :=
  (Entry.addValue path name d b.current).map fun t => { b with current := t }

/-- Starts the table of a header. What longer headers implied about it is taken up again; a table
that exists in any other way may not be opened. -/
def openTable (b : Builder) (path : List String) : Option Builder := do
  let root ← b.close
  let name ← path.getLast?
  let (taken, root) ← Entry.visit .implied (fun _ t =>
    match Entry.find? name t with
    | none => some ([], t)
    | some (.table .implied fields) => some (fields, t.filter fun f => f.1 ≠ name)
    | some _ => none) path.dropLast .headed root
  some ⟨root, path, false, taken⟩

/-- Starts the next item of an array of tables. -/
def openItem (b : Builder) (path : List String) : Option Builder := do
  let root ← b.close
  let name ← path.getLast?
  let ((), root) ← Entry.visit .implied (fun _ t =>
    match Entry.find? name t with
    | none => some ((), Entry.set name (.tables []) t)
    | some (.tables items) => some ((), Entry.set name (.tables items) t)
    | some _ => none) path.dropLast .headed root
  some ⟨root, path, true, []⟩

end Builder

end Autoplay.Toml
