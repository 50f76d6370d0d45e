import Autoplay.Proofs.Queue.Tasks

/-!
# Custody of account files

What becomes of the files of a folder whose accounts were loaded, when nobody else touches them and
finished files go to a folder beside them. A file that was moved `n` times lies in the `n`-th folder
`done` below the folder (`donePlace`). `Kept` carries this through every task that neither loads nor
deletes: each account is found at its path with its first text, and the folder itself holds the
accounts that were not moved. Main statement: no account file is lost (`no_account_is_lost`).
-/

namespace Autoplay

/-! ## Where the files are -/

/-- The place of the files of a folder that were moved some times. -/
def donePlace (l : Location) (moves : Nat) : Location := l ++ List.replicate moves "done"

/-- One move leads into the next folder below. -/
theorem donePlace_succ (l : Location) (moves : Nat) :
    donePlace l (moves + 1) = donePlace l moves ++ ["done"] := by
  rw [donePlace, List.replicate_succ', ← List.append_assoc, donePlace]

/-- What lies in the folder itself lies in none of the folders below. -/
theorem ne_deeper (l : Location) (n : String) (moves : Nat) (id : String) :
    l ++ [n] ≠ donePlace l moves ++ ["done"] ++ [id] := by
  intro e
  have hlen := congrArg List.length e
  simp only [donePlace, List.length_append, List.length_singleton, List.length_replicate] at hlen
  omega

/-- The accounts of a folder of a tree after some were moved: `paths` tells where they are by their
names, and `files` is the tree then. -/
structure Kept (t : FileTree) (l : Location) (moved : List String) (files : FileTree)
    (paths : List (String × String)) : Prop where
  /-- The tree is plain. -/
  plain : files.Plain
  /-- No folder is gone. -/
  keeps : t.KeepsFolders files
  /-- The names are distinct. -/
  nodup : (paths.map (·.1)).Nodup
  /-- They are proper, and none is that of the folder for finished ones. -/
  names : ∀ x ∈ paths, FileTree.IsName x.1 ∧ x.1 ≠ "done"
  /-- The path of each account leads to its file, which has the first text. -/
  held : ∀ x ∈ paths, ∃ path text, x.2 = Path.join path x.1 ∧
    files.Enters path (donePlace l (moved.count x.1)) ∧
    t.lookup (l ++ [x.1]) = some (.file text) ∧
    files.lookup (donePlace l (moved.count x.1) ++ [x.1]) = some (.file text)
  /-- In the folder itself are the files that were not moved. -/
  rest : ∀ n text, files.lookup (l ++ [n]) = some (.file text) ↔
    n ∉ moved ∧ t.lookup (l ++ [n]) = some (.file text)

namespace Kept

variable {t files after : FileTree} {l : Location} {moved : List String}
  {paths : List (String × String)}

/-- More folders do not matter. -/
theorem addsFolders (h : Kept t l moved files paths) (hplain : after.Plain)
    (hadds : files.AddsFolders after) : Kept t l moved after paths := by
  refine ⟨hplain, h.keeps.trans hadds.toKeepsFolders, h.nodup, h.names, fun x hx => ?_,
    fun n text => (hadds.files _ _).trans (h.rest n text)⟩
  obtain ⟨path, text, hpath, henters, hfirst, hnow⟩ := h.held x hx
  exact ⟨path, text, hpath, henters.of_keepsFolders hadds.toKeepsFolders, hfirst,
    (hadds.files _ _).2 hnow⟩

/-- Nor does what is left of a file of an account where it would go with one more move. -/
theorem changedAt (h : Kept t l moved files paths) {id : String}
    (hleft : files.ChangedAt after (donePlace l (moved.count id) ++ ["done"] ++ [id])) :
    Kept t l moved after paths := by
  refine ⟨hleft.plain, h.keeps.trans hleft.toKeepsFolders, h.nodup, h.names, fun x hx => ?_,
    fun n text => ?_⟩
  · obtain ⟨path, text, hpath, henters, hfirst, hnow⟩ := h.held x hx
    -- The file of this account lies one folder above, and those of others have other names.
    have hplace : donePlace l (moved.count x.1) ++ [x.1] ≠
        donePlace l (moved.count id) ++ ["done"] ++ [id] := by
      intro e
      obtain ⟨hfolder, hname⟩ := List.append_inj' e rfl
      rw [List.singleton_inj.1 hname, donePlace] at hfolder
      have hlen := congrArg List.length hfolder
      simp only [List.length_append, List.length_singleton] at hlen
      omega
    exact ⟨path, text, hpath, henters.of_keepsFolders hleft.toKeepsFolders, hfirst,
      (hleft.lookup_eq _ hplace).trans hnow⟩
  · rw [hleft.lookup_eq _ (ne_deeper l n _ id), h.rest]

section Move

variable {id text dest : String}

/-- When a file of an account is moved once more, every account is where it should be. -/
theorem held_of_moved (h : Kept t l moved files paths)
    (hmoved : files.Moved after (donePlace l (moved.count id) ++ [id])
      (donePlace l (moved.count id) ++ ["done"] ++ [id]) text)
    (hfile : files.lookup (donePlace l (moved.count id) ++ [id]) = some (.file text))
    (hdest : after.Enters dest (donePlace l (moved.count id) ++ ["done"]))
    {x : String × String} (hx : x ∈ paths) :
    ∃ path text, (if x.1 = id then Path.join dest id else x.2) = Path.join path x.1 ∧
      after.Enters path (donePlace l ((moved ++ [id]).count x.1)) ∧
      t.lookup (l ++ [x.1]) = some (.file text) ∧
      after.lookup (donePlace l ((moved ++ [id]).count x.1) ++ [x.1]) = some (.file text) := by
  obtain ⟨path, first, hpath, henters, hfirst, hnow⟩ := h.held x hx
  by_cases hid : x.1 = id
  · -- The moved file has its new place now, one folder below.
    have htext : first = text := by
      rw [hid, hfile] at hnow
      exact (FileEntry.file.inj (Option.some.inj hnow)).symm
    have hcount : (moved ++ [id]).count id = moved.count id + 1 := by
      rw [List.count_append, List.count_singleton_self]
    refine ⟨dest, text, by rw [if_pos hid, hid], ?_, htext ▸ hfirst, ?_⟩
    · rw [hid, hcount, donePlace_succ]
      exact hdest
    · rw [hid, hcount, donePlace_succ, hmoved.lookup_eq, if_pos rfl]
  · -- Every other file has another name, so it was neither moved nor replaced.
    have hcount : (moved ++ [id]).count x.1 = moved.count x.1 := by
      rw [List.count_append, List.count_singleton, if_neg (by simpa using Ne.symm hid),
        Nat.add_zero]
    have hlast : ∀ m, donePlace l (moved.count x.1) ++ [x.1] ≠ m ++ [id] := fun m e =>
      hid (List.singleton_inj.1 (List.append_inj' e rfl).2)
    refine ⟨path, first, by rw [if_neg hid, hpath], ?_, hfirst, ?_⟩
    · rw [hcount]
      exact henters.of_keepsFolders hmoved.toKeepsFolders
    · rw [hcount, hmoved.lookup_eq, if_neg (hlast _), if_neg (hlast _), hnow]

/-- In the folder itself are the other files then. -/
theorem rest_of_moved (h : Kept t l moved files paths)
    (hmoved : files.Moved after (donePlace l (moved.count id) ++ [id])
      (donePlace l (moved.count id) ++ ["done"] ++ [id]) text) (n first : String) :
    after.lookup (l ++ [n]) = some (.file first) ↔
      n ∉ moved ++ [id] ∧ t.lookup (l ++ [n]) = some (.file first) := by
  rw [hmoved.lookup_eq, if_neg (ne_deeper l n _ id), List.mem_append, List.mem_singleton, not_or]
  by_cases hn : n = id
  · -- The moved file is gone from the folder, now or since long.
    subst hn
    refine ⟨fun hfound => ?_, fun hout => absurd rfl hout.1.2⟩
    split at hfound
    · exact absurd hfound (by simp)
    · next hplace =>
      have hcount : moved.count n = 0 := List.count_eq_zero.2 ((h.rest n first).1 hfound).1
      rw [hcount, donePlace, List.replicate_zero, List.append_nil] at hplace
      exact absurd rfl hplace
  · have hother : l ++ [n] ≠ donePlace l (moved.count id) ++ [id] := fun e =>
      hn (List.singleton_inj.1 (List.append_inj' e rfl).2)
    rw [if_neg hother, h.rest]
    exact ⟨fun ⟨hout, hfirst⟩ => ⟨⟨hout, hn⟩, hfirst⟩, fun ⟨⟨hout, _⟩, hfirst⟩ => ⟨hout, hfirst⟩⟩

/-- A file of an account is moved once more. -/
theorem move (h : Kept t l moved files paths)
    (hmoved : files.Moved after (donePlace l (moved.count id) ++ [id])
      (donePlace l (moved.count id) ++ ["done"] ++ [id]) text)
    (hfile : files.lookup (donePlace l (moved.count id) ++ [id]) = some (.file text))
    (hdest : after.Enters dest (donePlace l (moved.count id) ++ ["done"])) :
    Kept t l (moved ++ [id]) after
      (paths.map fun x => (x.1, if x.1 = id then Path.join dest id else x.2)) := by
  refine ⟨hmoved.plain, h.keeps.trans hmoved.toKeepsFolders, ?_, fun x hx => ?_, fun x hx => ?_,
    h.rest_of_moved hmoved⟩
  · rw [List.map_map]
    exact h.nodup
  · obtain ⟨y, hy, rfl⟩ := List.mem_map.1 hx
    exact h.names y hy
  · obtain ⟨y, hy, rfl⟩ := List.mem_map.1 hx
    exact h.held_of_moved hmoved hfile hdest hy

end Move

/-- Every task that neither loads nor deletes keeps the accounts. -/
theorem after_task {s : QueueSettings} (hs : s.doneFolder = none) {d : Depot}
    (h : Kept t l moved d.files d.queue.paths) {c : QueueTask} (hc : c.isSparing = true) :
    Kept t l (moved ++ (d.moved? s c).toList) (d.after s c).files (d.after s c).queue.paths := by
  -- Only a move touches the files or a path.
  cases c with
  | load | delete => exact absurd hc Bool.false_ne_true
  | next | mark | rewind | reset =>
    show Kept t l (moved ++ []) d.files (d.queue.call s _).paths
    rw [List.append_nil, AccountQueue.paths_call s d.queue rfl]
    exact h
  | move id r =>
    have hids : d.queue.ids.Nodup := d.queue.map_paths ▸ h.nodup
    by_cases hid : id ∈ d.queue.ids
    · obtain ⟨a, ha⟩ := AccountQueue.exists_find? hid
      obtain rfl : a.id = id := by simpa using List.find?_some ha
      have hmem : (a.id, a.path) ∈ d.queue.paths :=
        List.mem_map.2 ⟨a, List.mem_of_find?_eq_some ha, rfl⟩
      obtain ⟨path, text, hpath, henters, -, hnow⟩ := h.held _ hmem
      obtain ⟨prepared, hplain, hadds, hmove⟩ := AccountQueue.moveToDone_cases hs h.plain ha hpath
        henters (h.names _ hmem).1 hnow r
      have hprepared := h.addsFolders hplain hadds
      obtain ⟨left, e, hfail, hleft⟩ | ⟨files, dest, hdone, hdest, hmoved⟩ := hmove
      · rw [Depot.after_move hfail, Depot.moved?, hfail, Option.toList_none, List.append_nil]
        exact hprepared.changedAt hleft
      · have hold : prepared.lookup (donePlace l (moved.count a.id) ++ [a.id]) =
            some (.file text) := (hadds.files _ _).2 hnow
        rw [Depot.after_move hdone, Depot.moved?, hdone]
        simp only [Except.map, AccountQueue.settle, AccountQueue.paths_replace hids]
        exact hprepared.move hmoved hold hdest
    · have hnone := (AccountQueue.find?_eq_none_iff d.queue id).2 hid
      have hfail : AccountQueue.moveToDone s d.files d.queue id r =
          (d.files, .error (.unknownAccount id)) := by
        simp only [AccountQueue.moveToDone, hnone]
      rw [Depot.after_move hfail, Depot.moved?, hfail, Option.toList_none, List.append_nil]
      exact h

/-- So does every sequence of such tasks. -/
theorem after_tasks {s : QueueSettings} (hs : s.doneFolder = none) {d : Depot}
    (h : Kept t l moved d.files d.queue.paths) {cs : List QueueTask}
    (hcs : ∀ c ∈ cs, c.isSparing = true) :
    Kept t l (moved ++ d.moved s cs) (d.afterAll s cs).files (d.afterAll s cs).queue.paths := by
  induction cs generalizing d moved with
  | nil =>
    rw [Depot.moved, List.append_nil]
    exact h
  | cons c cs ih =>
    obtain ⟨hc, hrest⟩ := List.forall_mem_cons.1 hcs
    rw [Depot.moved, ← List.append_assoc]
    exact ih (h.after_task hs hc) hrest

end Kept

namespace Kept

variable {t : FileTree} {l : Location} {folder : String}

/-- The accounts of a folder that was loaded, none of them moved. -/
theorem start {s : QueueSettings} (ht : t.Plain) (he : t.Enters folder l) {q : AccountQueue}
    (hq : AccountQueue.load s t folder = .ok q) : Kept t l [] t q.paths := by
  obtain ⟨names, hload, hsorted, hmem⟩ := AccountQueue.load_spec s ht he
  obtain rfl : AccountQueue.ofNames folder names = q := Except.ok.inj (hload.symm.trans hq)
  have hpaths : (AccountQueue.ofNames folder names).paths =
      names.map fun n => (n, Path.join folder n) := by
    rw [AccountQueue.paths, AccountQueue.ofNames, List.map_map]
    rfl
  rw [hpaths]
  refine ⟨ht, .refl t, ?_, fun x hx => ?_, fun x hx => ?_, fun n text => by simp⟩
  · rw [List.map_map]
    exact (List.map_id names).symm ▸ hsorted.imp String.ne_of_lt
  · obtain ⟨n, hn, rfl⟩ := List.mem_map.1 hx
    obtain ⟨hname, text, hfound⟩ := (hmem n).1 hn
    refine ⟨ht.isName_of_lookup hfound, ?_⟩
    rintro rfl
    rw [AccountQueue.isAccountName_done s he.ne_empty] at hname
    exact absurd hname Bool.false_ne_true
  · obtain ⟨n, hn, rfl⟩ := List.mem_map.1 hx
    obtain ⟨-, text, hfound⟩ := (hmem n).1 hn
    have hplace : donePlace l (([] : List String).count n) = l := by
      rw [List.count_nil, donePlace, List.replicate_zero, List.append_nil]
    refine ⟨folder, text, rfl, ?_, hfound, ?_⟩
    · rw [hplace]
      exact he
    · rw [hplace]
      exact hfound

/-- The path of an account ends in its name and leads to its file, which has the first text. -/
theorem found (ht : t.Plain) (he : t.Enters folder l) {moved : List String} {files : FileTree}
    {q : AccountQueue} (h : Kept t l moved files q.paths) {a : Account} (ha : a ∈ q.accounts) :
    Path.fileName? a.path = some a.id ∧ (∃ m, files.resolve true a.path = .ok (m ++ [a.id])) ∧
      ∃ text, t.readText (Path.join folder a.id) = .ok text ∧ files.readText a.path = .ok text := by
  have hmem : (a.id, a.path) ∈ q.paths := List.mem_map.2 ⟨a, ha, rfl⟩
  have hname := (h.names _ hmem).1
  obtain ⟨path, text, hpath, henters, hfirst, hnow⟩ := h.held _ hmem
  have hresolve := henters.resolve_join h.plain hname true
  simp only at hpath
  rw [hpath]
  refine ⟨Path.fileName?_join henters.ne_empty hname, ⟨_, hresolve⟩, text, ?_, ?_⟩
  · simp only [FileTree.readText, he.resolve_join ht hname, bind, Except.bind, hfirst]
  · simp only [FileTree.readText, hresolve, bind, Except.bind, hnow]

/-- Loading the folder again gives the accounts that were not moved. -/
theorem load_again {s : QueueSettings} (ht : t.Plain) (he : t.Enters folder l) {q : AccountQueue}
    (hq : AccountQueue.load s t folder = .ok q) {moved : List String} {files : FileTree}
    {paths : List (String × String)} (h : Kept t l moved files paths) :
    AccountQueue.load s files folder =
      .ok { q with accounts := q.accounts.filter fun a => a.id ∉ moved } := by
  obtain ⟨names, hload, hsorted, hmem⟩ := AccountQueue.load_spec s ht he
  obtain ⟨left, hagain, hsorted', hmem'⟩ :=
    AccountQueue.load_spec s h.plain (he.of_keepsFolders h.keeps)
  obtain rfl : AccountQueue.ofNames folder names = q := Except.ok.inj (hload.symm.trans hq)
  -- Both lists are in order, so it is enough that they have the same names.
  have hleft : left = names.filter fun n => n ∉ moved := by
    refine hsorted'.eq_of_mem_iff (hsorted.filter _) fun n => ?_
    rw [hmem', List.mem_filter, hmem, decide_eq_true_eq]
    simp only [h.rest]
    constructor
    · rintro ⟨hname, text, hout, hfirst⟩
      exact ⟨⟨hname, text, hfirst⟩, hout⟩
    · rintro ⟨⟨hname, text, hfirst⟩, hout⟩
      exact ⟨hname, text, hout, hfirst⟩
  simp only [hagain, hleft, AccountQueue.ofNames, List.filter_map]
  rfl

end Kept

namespace Depot

open AccountQueue

/-- Tasks that neither load nor delete keep the names. -/
theorem ids_afterAll (s : QueueSettings) (d : Depot) {cs : List QueueTask}
    (hcs : ∀ c ∈ cs, c.isSparing = true) : (d.afterAll s cs).queue.ids = d.queue.ids := by
  induction cs generalizing d with
  | nil => rfl
  | cons c cs ih =>
    obtain ⟨hc, hrest⟩ := List.forall_mem_cons.1 hcs
    have hstep : (d.after s c).queue.ids = d.queue.ids := by
      refine AccountQueue.ids_call s d.queue fun t folder refusal => ?_
      cases c with
      | load => exact absurd hc Bool.false_ne_true
      | next | mark | move | delete | rewind | reset => simp [QueueTask.call]
    exact (ih (d.after s c) hrest).trans hstep

/-- Of the accounts of a folder that was loaded no file is lost, whatever is done with the queue but
loading and deleting, and whatever of it fails, if finished files go to a folder beside them: every
account stays, and its path leads to a file of its name with the text that it had at first; the
paths differ, as do the places that they lead to; and loading the folder again gives exactly the
accounts that were not moved. -/
theorem no_account_is_lost {s : QueueSettings} (hs : s.doneFolder = none) {t : FileTree}
    (ht : t.Plain) {folder : String} {q : AccountQueue}
    (hq : AccountQueue.load s t folder = .ok q) {cs : List QueueTask}
    (hcs : ∀ c ∈ cs, c.isSparing = true) {d : Depot} (hd : d = afterAll s ⟨t, q⟩ cs) :
    d.queue.ids = q.ids ∧
      (∀ a ∈ d.queue.accounts, Path.fileName? a.path = some a.id ∧
        ∃ text, t.readText (Path.join folder a.id) = .ok text ∧
          d.files.readText a.path = .ok text) ∧
      (d.queue.accounts.map Account.path).Nodup ∧
      (d.queue.accounts.map fun a => d.files.resolve true a.path).Nodup ∧
      AccountQueue.load s d.files folder =
        .ok { q with accounts := q.accounts.filter fun a => a.id ∉ moved s ⟨t, q⟩ cs } := by
  subst hd
  obtain ⟨l, he⟩ := AccountQueue.exists_enters ht hq
  have hkept := (Kept.start ht he hq).after_tasks (d := ⟨t, q⟩) hs hcs
  rw [List.nil_append] at hkept
  have hids := ids_afterAll s ⟨t, q⟩ hcs
  generalize afterAll s ⟨t, q⟩ cs = d at hkept hids
  have hnodup : (d.queue.accounts.map fun a => some a.id).Nodup := by
    have hsome : (d.queue.ids.map some).Nodup :=
      (d.queue.map_paths ▸ hkept.nodup).map (Option.some_injective _)
    rwa [AccountQueue.ids, List.map_map] at hsome
  -- Places with different last names differ, and so do the paths that lead there.
  have hplaces : (d.queue.accounts.map fun a => d.files.resolve true a.path).Nodup := by
    refine List.Nodup.of_map (fun r => r.toOption.bind List.getLast?) ?_
    have hlast : d.queue.accounts.map ((fun r => r.toOption.bind List.getLast?) ∘
        fun a => d.files.resolve true a.path) = d.queue.accounts.map fun a => some a.id := by
      refine List.map_congr_left fun a ha => ?_
      obtain ⟨-, ⟨m, hm⟩, -⟩ := hkept.found ht he ha
      rw [Function.comp_apply, hm, Except.toOption, Option.bind_some, List.getLast?_concat]
    rw [List.map_map, hlast]
    exact hnodup
  have hpaths : (d.queue.accounts.map Account.path).Nodup := by
    refine List.Nodup.of_map (d.files.resolve true) ?_
    rw [List.map_map]
    exact hplaces
  refine ⟨hids, fun a ha => ?_, hpaths, hplaces, hkept.load_again ht he hq⟩
  obtain ⟨hname, -, htext⟩ := hkept.found ht he ha
  exact ⟨hname, htext⟩

/-- A folder with three account files is plain, and it is entered by its path. -/
theorem plain_threeFiles : threeFiles.Plain ∧ threeFiles.Enters "/in" ["in"] := by
  decide +kernel

/-- The first of the three files can be moved. -/
theorem move_threeFiles {q : AccountQueue}
    (hq : q.find? "a.xml" = some ⟨"a.xml", "/in/a.xml", .pending⟩) : ∃ files : FileTree,
    moveToDone {} threeFiles q "a.xml" = (files, .ok ("/in/done/a.xml", { q with
      accounts :=
        replace (fun a => { a with path := "/in/done/a.xml" }) "a.xml" q.accounts })) ∧
      files.Enters "/in/done" ["in", "done"] ∧
      (threeFiles.put ["in", "done"] .folder).Moved files ["in", "a.xml"] ["in", "done", "a.xml"]
        "1" := by
  obtain ⟨hplain, hin⟩ := plain_threeFiles
  obtain ⟨hpath, -, hpath', -⟩ := join_first
  have hfile : threeFiles.lookup (["in"] ++ ["a.xml"]) = some (.file "1") := rfl
  have hmove := moveToDone_succeeds (s := {}) rfl hplain (a := ⟨"a.xml", "/in/a.xml", .pending⟩) hq
    hpath.symm hin isName_first.1 hfile rfl
  simp only [doneFolder_first.1, hpath'] at hmove
  exact hmove

/-- Of three accounts one is moved, and another move fails: the two others are still in the
folder. -/
theorem three_accounts_are_kept : ∃ d : Depot,
    d = afterAll {} ⟨threeFiles, threeAccounts⟩ [.next, .move "z.xml", .move "a.xml"] ∧
    d.queue.accounts.map Account.path = ["/in/done/a.xml", "/in/b.xml", "/in/c.xml"] ∧
    (∀ a ∈ d.queue.accounts, ∃ text, threeFiles.readText (Path.join "/in" a.id) = .ok text ∧
      d.files.readText a.path = .ok text) ∧
    ∃ q, AccountQueue.load {} d.files "/in" = .ok q ∧ q.ids = ["b.xml", "c.xml"] := by
  have hsparing : ∀ c ∈ [QueueTask.next, .move "z.xml", .move "a.xml"], c.isSparing = true := by
    simp [QueueTask.isSparing]
  obtain ⟨-, htexts, -, -, hagain⟩ := no_account_is_lost (s := {}) rfl plain_threeFiles.1
    load_threeFiles hsparing rfl
  have hnext : after {} ⟨threeFiles, threeAccounts⟩ .next =
      ⟨threeFiles, threeAccounts.next.2⟩ := rfl
  have hfail : moveToDone {} threeFiles threeAccounts.next.2 "z.xml" =
      (threeFiles, .error (.unknownAccount "z.xml")) := rfl
  have hstay : after {} ⟨threeFiles, threeAccounts.next.2⟩ (.move "z.xml") =
      ⟨threeFiles, threeAccounts.next.2⟩ := by
    rw [after_move hfail]
    rfl
  obtain ⟨files, hmove, -⟩ := move_threeFiles (q := threeAccounts.next.2) (by decide)
  have hmoved : moved {} ⟨threeFiles, threeAccounts⟩ [.next, .move "z.xml", .move "a.xml"] =
      ["a.xml"] := by
    simp only [moved, hnext, hstay, moved?, hfail, hmove]
    rfl
  refine ⟨_, rfl, ?_, fun a ha => (htexts a ha).2, _, hagain, ?_⟩
  · simp only [afterAll, List.foldl_cons, List.foldl_nil, hnext, hstay]
    rw [after_move hmove]
    show (replace (fun a => { a with path := "/in/done/a.xml" }) "a.xml"
      threeAccounts.next.2.accounts).map Account.path = _
    decide +kernel
  · rw [hmoved]
    decide +kernel

end Depot

end Autoplay
