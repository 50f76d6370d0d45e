/-!
# Documents

The values that a configuration or workflow file holds once its notation has been read: a tree of
records and lists over plain values. A record keeps its fields in the order in which they are to be
visited.
-/

namespace Autoplay

/-- A value of a file. -/
inductive Document where
  /-- No value. -/
  | null
  /-- A truth value. -/
  | bool (b : Bool)
  /-- A whole number. -/
  | integer (n : Int)
  /-- A number in double precision. -/
  | float (x : Float)
  /-- A number in single precision, as records of this library hold it. -/
  | single (x : Float32)
  /-- A text. -/
  | text (s : String)
  /-- A list. -/
  | list (items : List Document)
  /-- Named fields. -/
  | record (fields : List (String × Document))
deriving Inhabited

namespace Document

/-- Whether there is no value. -/
def isNull : Document → Bool
  | .null => true
  | _ => false

/-- The value of a field, the first one if the name is repeated. -/
def lookup (name : String) : List (String × Document) → Option Document
  | [] => none
  | (key, value) :: rest => if key = name then some value else lookup name rest

/-- Sets a field in fields sorted by name: it replaces the field of that name, or takes its place in
the order. -/
def insert (name : String) (value : Document) :
    List (String × Document) → List (String × Document)
  | [] => [(name, value)]
  | (key, old) :: rest =>
    if name < key then (name, value) :: (key, old) :: rest
    else if name = key then (name, value) :: rest
    else (key, old) :: insert name value rest

mutual

/-- Removes, at every depth, the fields of records that have no value; the items of lists stay. -/
def dropNulls : Document → Document
  | .list items => .list (dropNullItems items)
  | .record fields => .record (dropNullFields fields)
  | d => d

/-- Removes the fields without a value inside every item. -/
def dropNullItems : List Document → List Document
  | [] => []
  | d :: rest => dropNulls d :: dropNullItems rest

/-- Removes the fields without a value, and such fields inside the others. -/
def dropNullFields : List (String × Document) → List (String × Document)
  | [] => []
  | (key, d) :: rest =>
    if d.isNull then dropNullFields rest else (key, dropNulls d) :: dropNullFields rest

end

end Document

end Autoplay
