import Autoplay.Proofs.Files.Moving
import Autoplay.Proofs.Queue.Validity
import Mathlib.Data.List.Sort
import Mathlib.Data.String.Basic

/-!
# Tasks of a queue and its files

A queue deals with files in three of its calls: it lists a folder, moves a file and deletes one. A
`Depot` is a queue together with the files, and a `QueueTask` a call without its files, which it
takes from there; what the system refuses on the way is part of the task. This module says what each
such call does to files without links: loading gives the account files of a folder (`load_spec`),
and moving makes the folder for finished files and puts the file there, or leaves all files alone
but one that may be at its new place (`moveToDone_cases`).
-/

namespace Autoplay

/-- What is done with a queue and the files that it deals with. -/
inductive QueueTask where
  /-- Replace the accounts by those of a folder. -/
  | load (folder : String) (refusal : Option SystemError := none)
  /-- Take the next account. -/
  | next
  /-- Note the result of processing an account. -/
  | mark (id : String) (failure : Option String)
  /-- Move the file of an account to the folder for finished ones. -/
  | move (id : String) (refusals : FileTree.MoveRefusals := {})
  /-- Delete the file of a broken account. -/
  | delete (id : String) (refusal : Option SystemError := none)
  /-- Hand out again from the start. -/
  | rewind
  /-- Forget what became of the accounts. -/
  | reset

namespace QueueTask

/-- The call of the queue that a task is, with the files as they are. -/
def call (t : FileTree) : QueueTask → QueueCall
  | .load folder refusal => .load t folder refusal
  | .next => .next
  | .mark id failure => .mark id failure
  | .move id refusals => .move t id refusals
  | .delete id refusal => .delete t id refusal
  | .rewind => .rewind
  | .reset => .reset

/-- Whether a task neither loads nor deletes. -/
def isSparing : QueueTask → Bool
  | .load .. => false
  | .delete .. => false
  | _ => true

end QueueTask

/-- Files and a queue of some of them. -/
structure Depot where
  /-- The files. -/
  files : FileTree
  /-- The queue. -/
  queue : AccountQueue

namespace Depot

open AccountQueue

/-- The files and the queue after a task. -/
def after (s : QueueSettings) (d : Depot) (c : QueueTask) : Depot where
  files := match c with
    | .move id refusals => (moveToDone s d.files d.queue id refusals).1
    | .delete id refusal =>
      match AccountQueue.delete d.files d.queue id refusal with
      | .ok (files, _) => files
      | .error _ => d.files
    | _ => d.files
  queue := d.queue.call s (c.call d.files)

/-- The files and the queue after some tasks. -/
def afterAll (s : QueueSettings) (d : Depot) (cs : List QueueTask) : Depot :=
  cs.foldl (after s) d

/-- The account that a task moves. -/
def moved? (s : QueueSettings) (d : Depot) : QueueTask → Option String
  | .move id refusals =>
    match (moveToDone s d.files d.queue id refusals).2 with
    | .ok _ => some id
    | .error _ => none
  | _ => none

/-- The accounts that some tasks move, the first one first. -/
def moved (s : QueueSettings) : Depot → List QueueTask → List String
  | _, [] => []
  | d, c :: cs => (d.moved? s c).toList ++ moved s (d.after s c) cs

/-- A task that moves a file, by what comes of it. -/
theorem after_move {s : QueueSettings} {d : Depot} {id : String}
    {refusals : FileTree.MoveRefusals} {files : FileTree}
    {r : Except QueueError (String × AccountQueue)}
    (h : moveToDone s d.files d.queue id refusals = (files, r)) :
    d.after s (.move id refusals) = ⟨files, d.queue.settle (r.map Prod.snd)⟩ := by
  rw [after, QueueTask.call, AccountQueue.call, h]

end Depot

/-- Whether a call leaves all paths alone. -/
def QueueCall.keepsPaths : QueueCall → Bool
  | .load .. => false
  | .move .. => false
  | _ => true

namespace AccountQueue

/-- The paths of the accounts, by name. -/
def paths (q : AccountQueue) : List (String × String) := q.accounts.map fun a => (a.id, a.path)

/-- The names are those of the accounts. -/
theorem map_paths (q : AccountQueue) : q.paths.map (·.1) = q.ids := by
  rw [paths, List.map_map]
  rfl

/-- No call but loading and moving changes a path. -/
theorem paths_call (s : QueueSettings) (q : AccountQueue) {c : QueueCall}
    (hc : c.keepsPaths = true) : (q.call s c).paths = q.paths := by
  have hmark : ∀ id outcome, (q.settle (q.mark id outcome)).paths = q.paths := by
    intro id outcome
    by_cases h : id ∈ q.ids
    · rw [mark_eq h]
      exact map_replace (fun a => (a.id, a.path)) (f := fun a => { a with outcome })
        (fun _ => rfl) id _
    · rw [mark_eq_error h]
      rfl
  cases c with
  | load | move => exact absurd hc Bool.false_ne_true
  | next => exact congrArg (List.map fun a : Account => (a.id, a.path)) (next_keeps q).1
  | mark id failure => rw [call_mark, hmark]
  | delete t id refusal =>
    obtain h | h := delete_settles s t q id refusal
    · rw [h]
    · rw [h, hmark]
  | rewind => rfl
  | reset => simp [AccountQueue.call, AccountQueue.reset, paths, Function.comp_def]

/-- Another path for the account of a name. -/
theorem paths_replace {q : AccountQueue} (hq : q.ids.Nodup) (id path : String) :
    { q with accounts := replace (fun a => { a with path }) id q.accounts }.paths =
      q.paths.map fun x => (x.1, if x.1 = id then path else x.2) := by
  simp only [paths]
  rw [replace_eq_map _ _ hq, List.map_map, List.map_map]
  refine List.map_congr_left fun a _ => ?_
  simp only [Function.comp_apply]
  split <;> rfl

/-- No call but loading changes the names. -/
theorem ids_call (s : QueueSettings) (q : AccountQueue) {c : QueueCall}
    (hc : ∀ t folder refusal, c ≠ .load t folder refusal) : (q.call s c).ids = q.ids := by
  cases c with
  | load t folder refusal => exact absurd rfl (hc t folder refusal)
  | move => exact (call_keeps_places rfl).ids
  | next | mark | delete | rewind | reset => rw [← map_paths, paths_call s q rfl, map_paths]

/-! ## Moving one file -/

/-- What comes of a file that is moved: it has been moved into the folder for finished ones, which
was made first, and its account has its new path. -/
theorem moveToDone_eq_ok {s : QueueSettings} {t moved : FileTree} {q after : AccountQueue}
    {id dest : String} {r : FileTree.MoveRefusals}
    (h : moveToDone s t q id r = (moved, .ok (dest, after))) :
    ∃ a, q.find? id = some a ∧ dest = Path.join (doneFolder s a.path) a.id ∧
      (t.makeFolders (doneFolder s a.path) r.folder).1.moveFile a.path dest r = (moved, .ok ()) ∧
      after = { q with accounts := replace (fun a => { a with path := dest }) id q.accounts } := by
  rw [moveToDone] at h
  split at h
  · exact absurd (Prod.mk.inj h).2 (by simp)
  · next a ha =>
    simp only at h
    split at h
    · exact absurd (Prod.mk.inj h).2 (by simp)
    · next hmake =>
      split at h
      · exact absurd (Prod.mk.inj h).2 (by simp)
      · next hmove =>
        obtain ⟨rfl, hresult⟩ := Prod.mk.inj h
        obtain ⟨rfl, rfl⟩ := Prod.mk.inj (Except.ok.inj hresult)
        refine ⟨a, ha, rfl, ?_, rfl⟩
        rw [hmake, hmove]

/-- Without a folder in the settings, the folder for finished ones is beside the file. -/
theorem doneFolder_join {s : QueueSettings} (hs : s.doneFolder = none) {path id : String}
    (hne : path ≠ "") (hz : Char.ofNat 0 ∉ path.toList) (hid : FileTree.IsName id) :
    ∃ p, doneFolder s (Path.join path id) = Path.join p "done" ∧ Path.Alike path p := by
  obtain ⟨p, hparent, hp⟩ := Path.parent?_join hne hid hz
  refine ⟨p, ?_, hp⟩
  rw [doneFolder, hs, hparent]
  rfl

/-- The folder for finished ones has a proper name. -/
theorem isName_done : FileTree.IsName "done" := by
  constructor <;> decide +kernel

/-- To move a file to the folder for finished ones makes that folder first, if it is missing; then
the file is moved into it, or nothing is changed but what is at its new place. -/
theorem moveToDone_cases {s : QueueSettings} (hs : s.doneFolder = none) {t : FileTree}
    (ht : t.Plain) {q : AccountQueue} {a : Account} (ha : q.find? a.id = some a) {path : String}
    (hpath : a.path = Path.join path a.id) {l : Location} (he : t.Enters path l)
    (hid : FileTree.IsName a.id) {text : String}
    (hfile : t.lookup (l ++ [a.id]) = some (.file text)) (r : FileTree.MoveRefusals) :
    ∃ prepared : FileTree, prepared.Plain ∧ t.AddsFolders prepared ∧
      ((∃ left e, moveToDone s t q a.id r = (left, .error e) ∧
          prepared.ChangedAt left (l ++ ["done"] ++ [a.id])) ∨
        ∃ moved dest, moveToDone s t q a.id r = (moved, .ok (Path.join dest a.id, { q with
            accounts := replace (fun b => { b with path := Path.join dest a.id }) a.id
              q.accounts })) ∧
          moved.Enters dest (l ++ ["done"]) ∧
          prepared.Moved moved (l ++ [a.id]) (l ++ ["done"] ++ [a.id]) text) := by
  obtain ⟨p, hdone, halike⟩ := doneFolder_join hs he.ne_empty he.no_zero hid
  have hp := he.of_alike halike
  obtain ⟨e, hmake⟩ | ⟨prepared, hmake, hplain, hadds, hdest⟩ :=
    hp.makeFolders ht isName_done r.folder
  · refine ⟨t, ht, .refl t,
      .inl ⟨t, .files .create (Path.join p "done") e, ?_, ht.changedAt_self _⟩⟩
    simp only [moveToDone, ha, hpath, hdone, hmake]
  · have hsource := he.of_keepsFolders hadds.toKeepsFolders
    have hold : prepared.lookup (l ++ [a.id]) = some (.file text) := (hadds.files _ _).2 hfile
    have hne : l ++ [a.id] ≠ l ++ ["done"] ++ [a.id] := by
      intro h
      have hlen := congrArg List.length h
      simp only [List.length_append, List.length_singleton] at hlen
      omega
    refine ⟨prepared, hplain, hadds, ?_⟩
    obtain ⟨left, e, hmove, hleft⟩ | ⟨moved, hmove, hmoved⟩ :=
      hsource.moveFile hplain hid hdest hid hold hne r
    · refine .inl ⟨left, .files .move (Path.join path a.id) e, ?_, hleft⟩
      simp only [moveToDone, ha, hpath, hdone, hmake, hmove]
    · refine .inr ⟨moved, _, ?_, hdest.of_keepsFolders hmoved.toKeepsFolders, hmoved⟩
      simp only [moveToDone, ha, hpath, hdone, hmake, hmove]

/-- Where there is no folder for finished files yet, a file is moved into one that is made. -/
theorem moveToDone_succeeds {s : QueueSettings} (hs : s.doneFolder = none) {t : FileTree}
    (ht : t.Plain) {q : AccountQueue} {a : Account} (ha : q.find? a.id = some a) {path : String}
    (hpath : a.path = Path.join path a.id) {l : Location} (he : t.Enters path l)
    (hid : FileTree.IsName a.id) {text : String}
    (hfile : t.lookup (l ++ [a.id]) = some (.file text))
    (hnone : t.lookup (l ++ ["done"]) = none) :
    ∃ moved, moveToDone s t q a.id = (moved, .ok (Path.join (doneFolder s a.path) a.id, { q with
        accounts := replace (fun b => { b with path := Path.join (doneFolder s a.path) a.id }) a.id
          q.accounts })) ∧
      moved.Enters (doneFolder s a.path) (l ++ ["done"]) ∧
      (t.put (l ++ ["done"]) .folder).Moved moved (l ++ [a.id]) (l ++ ["done"] ++ [a.id]) text := by
  obtain ⟨p, hdone, halike⟩ := doneFolder_join hs he.ne_empty he.no_zero hid
  have hp := he.of_alike halike
  rw [← hpath] at hdone
  have hmake := hp.makeFolders_eq_put ht isName_done hnone
  obtain ⟨hplain, hadds⟩ := ht.put_folder hp.folder isName_done hnone
  have hsource := he.of_keepsFolders hadds.toKeepsFolders
  have hdest := (hp.of_keepsFolders hadds.toKeepsFolders).join isName_done
    (by rw [FileTree.lookup_put t _ _ _ (by simp), if_pos rfl])
  have hold := (hadds.files _ _).2 hfile
  have hne : l ++ [a.id] ≠ l ++ ["done"] ++ [a.id] := by
    intro h
    have hlen := congrArg List.length h
    simp only [List.length_append, List.length_singleton] at hlen
    omega
  -- Nothing is in a folder that was just made, so no folder is in the way.
  have hfree : (t.put (l ++ ["done"]) .folder).lookup (l ++ ["done"] ++ [a.id]) ≠
      some .folder := by
    rw [FileTree.lookup_put t _ _ _ (by simp), if_neg (by simp)]
    intro h
    exact absurd (hnone.symm.trans (ht.isRooted.folder_of_lookup h)) (by simp)
  obtain ⟨hfolder, -⟩ | ⟨moved, hrename, hmoved⟩ := hplain.rename hold hdest.folder hid hne
    (hsource.resolve_join hplain hid false) (hdest.resolve_join hplain hid false)
  · exact absurd hfolder hfree
  · refine ⟨moved, ?_, ?_, hmoved⟩
    · rw [← hpath] at hrename
      simp only [moveToDone, ha, hdone, hmake, FileTree.moveFile, SystemError.refusing_none,
        hrename]
    · rw [hdone]
      exact hdest.of_keepsFolders hmoved.toKeepsFolders

/-! ## Loading -/

/-- What is loaded is what is loaded when nothing is refused. -/
theorem load_eq_ok {s : QueueSettings} {t : FileTree} {folder : String}
    {refusal : Option SystemError} {q : AccountQueue} :
    load s t folder refusal = .ok q ↔ refusal = none ∧ load s t folder = .ok q := by
  cases refusal with
  | none => simp
  | some e => cases hfolder : t.isFolder folder <;> simp [load, hfolder]

/-- Whether a path ends in the name of an account file. -/
def isAccountName (s : QueueSettings) (path : String) : Bool :=
  match Path.extension? path with
  | some e => asciiLower e == asciiLower (bareExtension s)
  | none => false

/-- The folder for finished ones has no name of an account file. -/
theorem isAccountName_done (s : QueueSettings) {folder : String} (hf : folder ≠ "") :
    isAccountName s (Path.join folder "done") = false := by
  have hextension : Path.extension? (Path.join folder "done") = none := by
    rw [Path.extension?, Path.fileName?_join hf isName_done]
    decide +kernel
  rw [isAccountName, hextension]

/-- A queue of some files of a folder with which nothing was done. -/
def ofNames (folder : String) (names : List String) : AccountQueue where
  folder := some folder
  accounts := names.map fun n => ⟨n, Path.join folder n, .pending⟩

/-- Loading a folder gives its account files in the order of their names. -/
theorem load_spec (s : QueueSettings) {t : FileTree} (ht : t.Plain) {folder : String} {l : Location}
    (he : t.Enters folder l) :
    ∃ names : List String, load s t folder = .ok (ofNames folder names) ∧
      names.Pairwise (· < ·) ∧
      ∀ n, n ∈ names ↔ isAccountName s (Path.join folder n) = true ∧
        ∃ text, t.lookup (l ++ [n]) = some (.file text) := by
  have hlist : t.list folder = .ok ((t.names l).mergeSort fun a b => !(b < a)) := by
    simp only [FileTree.list, he.resolve ht, bind, Except.bind, he.folder]
  have hsorted := list_sorted (FileTree.distinctNames_of_nodup ht.nodup) hlist
  refine ⟨((t.names l).mergeSort fun a b => !(b < a)).filter
    fun n => isAccountFile s t (Path.join folder n), ?_, hsorted.filter _, fun n => ?_⟩
  · rw [load, he.isFolder ht, hlist]
    rfl
  · rw [List.mem_filter, (List.mergeSort_perm _ _).mem_iff, FileTree.mem_names_iff]
    constructor
    · rintro ⟨⟨e, hmem⟩, hfile⟩
      have hfound := (ht.lookup_iff (by simp)).2 hmem
      have hresolve := he.resolve_join ht (ht.isName_of_lookup hfound) true
      simp only [isAccountFile, FileTree.isFile, FileTree.find?, hresolve, hfound,
        Bool.and_eq_true] at hfile
      cases e with
      | file text => exact ⟨hfile.2, text, hfound⟩
      | folder | link => exact absurd hfile.1 Bool.false_ne_true
    · rintro ⟨hname, text, hfound⟩
      have hresolve := he.resolve_join ht (ht.isName_of_lookup hfound) true
      refine ⟨⟨_, (ht.lookup_iff (by simp)).1 hfound⟩, ?_⟩
      simp only [isAccountFile, FileTree.isFile, FileTree.find?, hresolve, hfound, Bool.true_and]
      exact hname

/-- So names in order that are those of its account files are all that is needed. -/
theorem load_eq_ofNames (s : QueueSettings) {t : FileTree} (ht : t.Plain) {folder : String}
    {l : Location} (he : t.Enters folder l) {names : List String}
    (hsorted : names.Pairwise (· < ·))
    (hmem : ∀ n, n ∈ names ↔ isAccountName s (Path.join folder n) = true ∧
      ∃ text, t.lookup (l ++ [n]) = some (.file text)) :
    load s t folder = .ok (ofNames folder names) := by
  obtain ⟨found, hload, hsorted', hmem'⟩ := load_spec s ht he
  have hsame : found = names :=
    hsorted'.eq_of_mem_iff hsorted fun n => (hmem' n).trans (hmem n).symm
  rw [hload, hsame]

/-- A folder that was loaded is entered by its path. -/
theorem exists_enters {s : QueueSettings} {t : FileTree} (ht : t.Plain) {folder : String}
    {q : AccountQueue} (h : load s t folder = .ok q) : ∃ l, t.Enters folder l := by
  refine FileTree.Enters.of_isFolder ht ?_
  cases hfolder : t.isFolder folder with
  | true => rfl
  | false =>
    rw [load, hfolder] at h
    exact absurd h (by simp)

/-! ## The first of three accounts -/

/-- The name of the first account is that of an account file. -/
theorem isName_first : FileTree.IsName "a.xml" ∧ isAccountName {} "/in/a.xml" = true := by
  decide +kernel

/-- Its paths in the folder, in the folder for finished files, and in the one below that. -/
theorem join_first : Path.join "/in" "a.xml" = "/in/a.xml" ∧ Path.join "/in" "done" = "/in/done" ∧
    Path.join "/in/done" "a.xml" = "/in/done/a.xml" ∧
    Path.join "/in/done/done" "a.xml" = "/in/done/done/a.xml" := by
  decide +kernel

/-- The folders for finished files that go with the first two of them. -/
theorem doneFolder_first : doneFolder {} "/in/a.xml" = "/in/done" ∧
    doneFolder {} "/in/done/a.xml" = "/in/done/done" := by
  decide +kernel

/-! ## One account that comes back -/

/-- A folder whose account file has come back under a name that an earlier run has moved. -/
def secondRun : FileTree where
  entries := [(["in"], .folder), (["in", "a.xml"], .file "2"), (["in", "done"], .folder),
    (["in", "done", "a.xml"], .file "1")]

/-- The folder after another one has come instead of the account file. -/
def folderInstead : FileTree where
  entries := [(["in"], .folder), (["in", "a.xml"], .folder), (["in", "done"], .folder),
    (["in", "a.xml", "b.txt"], .file "3")]

/-- The account is that of its file. -/
theorem find?_revisited :
    (ofNames "/in" ["a.xml"]).find? "a.xml" = some ⟨"a.xml", "/in/a.xml", .pending⟩ := by
  rw [ofNames, List.map_singleton, join_first.1]
  rfl

/-- Loading the folder of the second run gives the one account. -/
theorem load_secondRun : load {} secondRun "/in" = .ok (ofNames "/in" ["a.xml"]) := by
  have hplain : secondRun.Plain ∧ secondRun.Enters "/in" ["in"] := by decide +kernel
  refine load_eq_ofNames {} hplain.1 hplain.2 (List.pairwise_singleton _ _) fun n => ?_
  constructor
  · intro hn
    obtain rfl := List.mem_singleton.1 hn
    exact ⟨by rw [join_first.1, isName_first.2], "2", rfl⟩
  · rintro ⟨-, text, hfile⟩
    have hmem := FileTree.mem_of_lookup (by simp) hfile
    have heq : n = "a.xml" ∧ text = "2" := by simpa [secondRun] using hmem
    exact List.mem_singleton.2 heq.1

section Revisited

variable {t : FileTree}

/-- In both trees the folder of the account and the one for finished files are there. -/
theorem plain_revisited (h : t = secondRun ∨ t = folderInstead) :
    t.Plain ∧ t.Enters "/in" ["in"] ∧ t.Enters "/in/done" ["in", "done"] := by
  obtain rfl | rfl := h <;> decide +kernel

/-- So the second one need not be made. -/
theorem makeFolders_revisited (h : t = secondRun ∨ t = folderInstead)
    (refuses : String → Option SystemError) :
    t.makeFolders "/in/done" refuses = (t, .ok ()) := by
  obtain ⟨hplain, hin, hdone⟩ := plain_revisited h
  obtain ⟨-, hjoin, -, -⟩ := join_first
  have hmake : t.makeFolders (Path.join "/in" "done") refuses =
      (t, if t.isFolder (Path.join "/in" "done") then .ok () else .error .alreadyExists) :=
    hin.makeFolders_of_some hplain isName_done hdone.folder
  rwa [hjoin, if_pos (hdone.isFolder hplain)] at hmake

/-- The paths of the account lead to these places. -/
theorem resolve_revisited (h : t = secondRun ∨ t = folderInstead) (follow : Bool) :
    t.resolve follow "/in/a.xml" = .ok ["in", "a.xml"] ∧
      t.resolve follow "/in/done/a.xml" = .ok ["in", "done", "a.xml"] := by
  obtain ⟨hplain, hin, hdone⟩ := plain_revisited h
  obtain ⟨hsource, -, hdest, -⟩ := join_first
  rw [← hsource, ← hdest]
  exact ⟨hin.resolve_join hplain isName_first.1 follow,
    hdone.resolve_join hplain isName_first.1 follow⟩

end Revisited

end AccountQueue

end Autoplay
