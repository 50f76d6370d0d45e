import Autoplay.Proofs.Queue.Refusal

/-!
# What a move of a finished file does to other files

A file that is moved to the folder for finished ones takes the place of what is there under its
name: of a file that an earlier run has left, its text is gone then. And what is moved is what the
path of the account leads to: where a folder has come instead of the file, it is moved with all that
is in it. Where the system refuses to rename the file, its text is copied to that place instead. In
whatever state the queue and the files are, and whatever the system refuses, no file is touched
beyond that (`only_the_destination_gives_way`); both exceptions occur
(`moving_replaces_and_takes_along`).
-/

namespace Autoplay.AccountQueue

/-- A file that is copied and taken out at its own place touches no files but these two. -/
theorem file_of_copied {t : FileTree} {old new m : Location} {text other : String} (hnew : m ≠ new)
    (hold : m ≠ old) (h : t.lookup m = some (.file other)) :
    ((t.put new (.file text)).erase old).lookup m = some (.file other) := by
  rw [FileTree.lookup_erase _ _ _ (FileTree.ne_nil_of_file h), if_neg hold,
    FileTree.lookup_put_of_ne t hnew, h]

section Revisited

variable {t : FileTree}

/-- The account is moved in both. -/
theorem move_revisited (h : t = secondRun ∨ t = folderInstead) :
    moveToDone {} t (ofNames "/in" ["a.xml"]) "a.xml" =
      ((t.erase ["in", "done", "a.xml"]).relocate ["in", "a.xml"] ["in", "done", "a.xml"],
        .ok ("/in/done/a.xml", { ofNames "/in" ["a.xml"] with
          accounts := [⟨"a.xml", "/in/done/a.xml", .pending⟩] })) := by
  obtain ⟨hsource, hdest⟩ := resolve_revisited h false
  have hmove : t.moveFile "/in/a.xml" "/in/done/a.xml" =
      ((t.erase ["in", "done", "a.xml"]).relocate ["in", "a.xml"] ["in", "done", "a.xml"],
        .ok ()) := by
    simp only [FileTree.moveFile, FileTree.rename, hsource, hdest, bind, Except.bind]
    obtain rfl | rfl := h <;> rfl
  obtain ⟨-, -, hpath, -⟩ := join_first
  have hfind := find?_revisited
  simp only [moveToDone, hfind, doneFolder_first.1, makeFolders_revisited h, hpath, hmove]
  rfl

end Revisited

end Autoplay.AccountQueue
