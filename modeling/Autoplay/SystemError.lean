/-!
# Refusals of the operating system

Why the operating system does not do what it is asked for, and how it says so. It may have reasons
of its own: permissions, a full disk, a border between two file systems. Files and folders do not
tell these, so a request that may be refused for them is given the refusal, if there is one.
-/

namespace Autoplay

/-- Why the operating system refuses something. -/
inductive SystemError where
  /-- There is nothing. -/
  | notFound
  /-- It is not allowed. -/
  | permissionDenied
  /-- Something is there already. -/
  | alreadyExists
  /-- A folder was needed. -/
  | notAFolder
  /-- A folder is in the way. -/
  | isAFolder
  /-- A folder still holds something. -/
  | folderNotEmpty
  /-- The request makes no sense. -/
  | invalidInput
  /-- Links lead on and on. -/
  | tooManyLinks
  /-- A name is longer than names may be. -/
  | nameTooLong
  /-- Any other reason, in its own words. -/
  | other (text : String)
deriving DecidableEq, Repr

namespace SystemError

/-- The wording of a refusal. -/
def text : SystemError → String
  | .notFound => "No such file or directory (os error 2)"
  | .permissionDenied => "Permission denied (os error 13)"
  | .alreadyExists => "File exists (os error 17)"
  | .notAFolder => "Not a directory (os error 20)"
  | .isAFolder => "Is a directory (os error 21)"
  | .folderNotEmpty => "Directory not empty (os error 39)"
  | .invalidInput => "Invalid argument (os error 22)"
  | .tooManyLinks => "Too many levels of symbolic links (os error 40)"
  | .nameTooLong => "File name too long (os error 36)"
  | .other text => text

/-- What comes of a request that may be refused for a reason of the system's own. -/
def refusing {α : Type} (refusal : Option SystemError) (r : Except SystemError α) :
    Except SystemError α :=
  match refusal with
  | some e => .error e
  | none => r

variable {α : Type}

/-- A request that is not refused gives what it gives. -/
@[simp]
theorem refusing_none (r : Except SystemError α) : refusing none r = r := rfl

/-- A request that is refused gives nothing. -/
@[simp]
theorem refusing_some (e : SystemError) (r : Except SystemError α) :
    refusing (some e) r = .error e := rfl

/-- A request that gives something is not refused. -/
theorem refusing_eq_ok {refusal : Option SystemError} {r : Except SystemError α} {a : α} :
    refusing refusal r = .ok a ↔ refusal = none ∧ r = .ok a := by
  cases refusal <;> simp

end SystemError

end Autoplay
