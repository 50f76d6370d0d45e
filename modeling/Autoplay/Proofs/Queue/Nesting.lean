import Autoplay.Proofs.Files.Renaming
import Autoplay.Proofs.Queue.Custody

/-!
# Where finished files go, pass after pass

Without a folder in the settings, the folder for finished files is the one beside the file that is
moved. A file that was moved before lies in such a folder already, so in a second pass it goes one
folder deeper. `Nested` carries through all calls that every account of a folder that was loaded
lies in the folder `done` below it as many times as its file was moved; the files of each call may
be any, as nothing is assumed about what else happens to them. Main statement: a file that is moved
after `k` earlier moves goes to the `k + 1`-st folder, so to the first one only if it was not moved
before (`moved_one_folder_deeper`); a second pass leads to the second one (`second_pass_nests`).
-/

namespace Autoplay

/-- The folder for finished files below a folder, the one below that, and so on. -/
def doneBelow (folder : String) : Nat → String
  | 0 => folder
  | depth + 1 => Path.join (doneBelow folder depth) "done"

/-- The names in the folders of a tree are proper, and in each of them distinct. -/
structure FileTree.ProperNames (t : FileTree) : Prop where
  /-- No folder has two entries of one name. -/
  distinct : t.DistinctNames
  /-- All names are proper. -/
  proper : ∀ l, ∀ n ∈ t.names l, FileTree.IsName n

/-- The names in a plain tree are. -/
theorem FileTree.Plain.properNames {t : FileTree} (ht : t.Plain) : t.ProperNames := by
  refine ⟨FileTree.distinctNames_of_nodup ht.nodup, fun l n hn => ?_⟩
  obtain ⟨e, hmem⟩ := FileTree.mem_names_iff.1 hn
  exact ht.isName_of_lookup ((ht.lookup_iff (by simp)).2 hmem)

namespace AccountQueue

/-- The account that a call moves. -/
def moved? (s : QueueSettings) (q : AccountQueue) : QueueCall → Option String
  | .move t id refusals =>
    match (moveToDone s t q id refusals).2 with
    | .ok _ => some id
    | .error _ => none
  | _ => none

/-- The accounts that some calls move, the first one first. -/
def moved (s : QueueSettings) : AccountQueue → List QueueCall → List String
  | _, [] => []
  | q, c :: cs => (q.moved? s c).toList ++ moved s (q.call s c) cs

/-! ## Paths below a folder -/

section Below

variable {folder : String}

/-- Below a path that can be followed, so can these. -/
theorem follows_doneBelow (hne : folder ≠ "") (hz : Char.ofNat 0 ∉ folder.toList) (depth : Nat) :
    doneBelow folder depth ≠ "" ∧ Char.ofNat 0 ∉ (doneBelow folder depth).toList := by
  induction depth with
  | zero => exact ⟨hne, hz⟩
  | succ depth ih =>
    exact ⟨Path.join_ne_empty ih.1 isName_done, Path.join_no_zero ih.1 isName_done ih.2⟩

/-- Each has one part more. -/
theorem parts_doneBelow (hne : folder ≠ "") (hz : Char.ofNat 0 ∉ folder.toList) (depth : Nat) :
    Path.parts (doneBelow folder depth) = Path.parts folder ++ List.replicate depth "done" := by
  induction depth with
  | zero => rw [doneBelow, List.replicate_zero, List.append_nil]
  | succ depth ih =>
    rw [doneBelow, Path.parts_join (follows_doneBelow hne hz depth).1 isName_done, ih,
      List.replicate_succ', List.append_assoc]

/-- The folder for finished files of a file in one of them is the next one. -/
theorem doneFolder_below {s : QueueSettings} (hs : s.doneFolder = none) (hne : folder ≠ "")
    (hz : Char.ofNat 0 ∉ folder.toList) {path id : String} {depth : Nat}
    (hpath : Path.Alike (doneBelow folder depth) path) (hid : FileTree.IsName id) :
    Path.Alike (doneBelow folder (depth + 1)) (doneFolder s (Path.join path id)) := by
  obtain ⟨p, hdone, hp⟩ := doneFolder_join hs hpath.ne_empty hpath.no_zero hid
  rw [hdone]
  exact (hpath.trans hp).join (follows_doneBelow hne hz depth).1 isName_done

end Below

/-! ## All accounts -/

/-- Each account lies below a folder as many folders for finished files deep as it was moved. -/
structure Nested (folder : String) (moved : List String) (paths : List (String × String)) :
    Prop where
  /-- The names are distinct. -/
  nodup : (paths.map (·.1)).Nodup
  /-- They are proper. -/
  names : ∀ x ∈ paths, FileTree.IsName x.1
  /-- The path of each account is one of its name in such a folder. -/
  nested : ∀ x ∈ paths, ∃ path, x.2 = Path.join path x.1 ∧
    Path.Alike (doneBelow folder (moved.count x.1)) path

/-- The names that are listed for a folder are proper. -/
theorem isName_of_list {t : FileTree} (ht : t.ProperNames) {folder : String} {names : List String}
    (h : t.list folder = .ok names) {n : String} (hn : n ∈ names) : FileTree.IsName n := by
  rw [FileTree.list] at h
  cases hl : t.resolve true folder with
  | error e => simp [hl, bind, Except.bind] at h
  | ok l =>
    simp only [hl, bind, Except.bind] at h
    split at h
    · obtain rfl := Except.ok.inj h
      exact ht.proper l n ((List.mergeSort_perm _ _).mem_iff.1 hn)
    · exact absurd h (by simp)
    · exact absurd h (by simp)

/-- A folder that was loaded has a path that can be followed, and its accounts lie in it. -/
theorem nested_load {s : QueueSettings} {t : FileTree} (ht : t.ProperNames) {folder : String}
    {q : AccountQueue} (h : load s t folder = .ok q) :
    folder ≠ "" ∧ Char.ofNat 0 ∉ folder.toList ∧ Nested folder [] q.paths := by
  have hvalid := (load_valid ht.distinct h).1
  rw [load] at h
  split at h
  · exact absurd h (by simp)
  · next hfolder =>
    obtain ⟨hne, hz⟩ := FileTree.follows_of_isFolder (by simpa using hfolder)
    refine ⟨hne, hz, ?_⟩
    cases hlist : t.list folder with
    | error e => simp [hlist] at h
    | ok names =>
      simp only [hlist, SystemError.refusing_none, Except.ok.injEq] at h
      have hnodup : (q.paths.map (·.1)).Nodup := by
        rw [map_paths]
        exact hvalid.ids_nodup
      -- Every account is one of a name that is listed, in the folder itself.
      have hpaths : ∀ x ∈ q.paths, x.1 ∈ names ∧ x.2 = Path.join folder x.1 := by
        intro x hx
        obtain ⟨a, ha, rfl⟩ := List.mem_map.1 hx
        rw [← h] at ha
        obtain ⟨n, hn, rfl⟩ := List.mem_map.1 ha
        exact ⟨(List.mem_filter.1 hn).1, rfl⟩
      exact ⟨hnodup, fun x hx => isName_of_list ht hlist (hpaths x hx).1,
        fun x hx => ⟨folder, (hpaths x hx).2, .refl hne hz⟩⟩

namespace Nested

variable {s : QueueSettings} {folder : String} {moved : List String} {q : AccountQueue}

/-- A file that is moved goes into the next folder. -/
theorem dest_alike (hs : s.doneFolder = none) (hne : folder ≠ "")
    (hz : Char.ofNat 0 ∉ folder.toList) (h : Nested folder moved q.paths) {id : String}
    {a : Account} (ha : q.find? id = some a) :
    a.id = id ∧ FileTree.IsName id ∧
      Path.Alike (doneBelow folder (moved.count id + 1)) (doneFolder s a.path) := by
  obtain rfl : a.id = id := by simpa using List.find?_some ha
  have hmem : (a.id, a.path) ∈ q.paths := List.mem_map.2 ⟨a, List.mem_of_find?_eq_some ha, rfl⟩
  obtain ⟨path, hpath, halike⟩ := h.nested _ hmem
  refine ⟨rfl, h.names _ hmem, ?_⟩
  simp only at hpath
  rw [hpath]
  exact doneFolder_below hs hne hz halike (h.names _ hmem)

/-- One more move of a file keeps the accounts where they should be. -/
theorem move (h : Nested folder moved q.paths) {id next : String}
    (hnext : Path.Alike (doneBelow folder (moved.count id + 1)) next) :
    Nested folder (moved ++ [id])
      { q with accounts :=
          replace (fun a => { a with path := Path.join next id }) id q.accounts }.paths := by
  rw [paths_replace (map_paths q ▸ h.nodup)]
  refine ⟨?_, fun x hx => ?_, fun x hx => ?_⟩
  · rw [List.map_map]
    exact h.nodup
  · obtain ⟨y, hy, rfl⟩ := List.mem_map.1 hx
    exact h.names y hy
  · obtain ⟨y, hy, rfl⟩ := List.mem_map.1 hx
    -- What counts as moved once more is the one account that has the next path.
    by_cases hid : y.1 = id
    · refine ⟨next, by simp only [hid, if_true], ?_⟩
      simp only [hid]
      rwa [List.count_append, List.count_singleton_self]
    · obtain ⟨path, hpath, halike⟩ := h.nested y hy
      refine ⟨path, by simp only [if_neg hid, hpath], ?_⟩
      simp only
      rwa [List.count_append, List.count_singleton, if_neg (by simpa using Ne.symm hid),
        Nat.add_zero]

/-- Every call but a loading that succeeds keeps the accounts where they should be. -/
theorem call (hs : s.doneFolder = none) (hne : folder ≠ "") (hz : Char.ofNat 0 ∉ folder.toList)
    (h : Nested folder moved q.paths) {c : QueueCall}
    (hc : ∀ t f, c = .load t f → ∀ q', load s t f ≠ .ok q') :
    Nested folder (moved ++ (q.moved? s c).toList) (q.call s c).paths := by
  cases c with
  | next | mark | delete | rewind | reset =>
    show Nested folder (moved ++ []) _
    rw [List.append_nil, paths_call s q rfl]
    exact h
  | load t f refusal =>
    show Nested folder (moved ++ []) _
    rw [List.append_nil, AccountQueue.call]
    cases hload : load s t f refusal with
    | error e => exact h
    | ok q' =>
      -- What was loaded was not refused, so it would be loaded without a word of that too.
      obtain ⟨rfl, hload⟩ := load_eq_ok.1 hload
      exact absurd hload (hc t f rfl q')
  | move t id r =>
    rw [AccountQueue.call, moved?]
    cases hmove : moveToDone s t q id r with
    | mk files r =>
      cases r with
      | error e =>
        show Nested folder (moved ++ []) _
        rw [List.append_nil]
        exact h
      | ok r =>
        obtain ⟨dest, after⟩ := r
        obtain ⟨a, ha, rfl, -, rfl⟩ := moveToDone_eq_ok hmove
        obtain ⟨hid, -, hnext⟩ := h.dest_alike hs hne hz ha
        rw [hid]
        exact h.move hnext

/-- So does every sequence of such calls. -/
theorem calls (hs : s.doneFolder = none) (hne : folder ≠ "") (hz : Char.ofNat 0 ∉ folder.toList)
    (h : Nested folder moved q.paths) {cs : List QueueCall}
    (hcs : ∀ t f, .load t f ∈ cs → ∀ q', load s t f ≠ .ok q') :
    Nested folder (moved ++ q.moved s cs) (q.calls s cs).paths := by
  induction cs generalizing q moved with
  | nil =>
    rw [AccountQueue.moved, List.append_nil]
    exact h
  | cons c cs ih =>
    rw [AccountQueue.moved, ← List.append_assoc]
    refine ih (h.call hs hne hz fun t f hc => hcs t f (hc ▸ List.mem_cons_self)) fun t f hc => ?_
    exact hcs t f (List.mem_cons_of_mem _ hc)

end Nested

/-- The account of a name after a change that keeps its name. -/
theorem find?_replace {f : Account → Account} (hf : ∀ a, (f a).id = a.id) (q : AccountQueue)
    (id : String) :
    { q with accounts := replace f id q.accounts }.find? id = (q.find? id).map f := by
  show (replace f id q.accounts).find? (fun a => a.id == id) =
    (q.accounts.find? fun a => a.id == id).map f
  induction q.accounts with
  | nil => rfl
  | cons a rest ih =>
    by_cases ha : a.id = id
    · simp [replace, ha, hf]
    · simp [replace, ha, ih]

/-- In the files of a file system, what is moved is found at the destination. -/
theorem moved_is_there {t moved : FileTree} (ht : t.Whole) {source dest : String}
    {r : FileTree.MoveRefusals} (hr : r.rename = none)
    (h : t.moveFile source dest r = (moved, .ok ())) : ∃ old new e,
      t.resolve false source = .ok old ∧ t.resolve false dest = .ok new ∧
      t.lookup old = some e ∧ moved.lookup new = some e := by
  obtain ⟨old, new, hold, hnew, hsome, hrenamed⟩ := ht.renamed_of_moveFile hr h
  obtain ⟨e, he⟩ := Option.ne_none_iff_exists'.1 hsome
  refine ⟨old, new, e, hold, hnew, he, ?_⟩
  have hself : new.isPrefixOf new = true := List.isPrefixOf_iff_prefix.2 (List.prefix_refl new)
  rw [hrenamed.lookup_eq, if_pos hself, List.drop_length, List.append_nil, he]

/-- After a folder was loaded, and whatever calls came since that did not load another one, a file
that is moved goes below the folder, one folder `done` deeper than it was moved before; so it goes
to the one in the folder itself exactly if it was not moved before. That is its path then. In the
files of a file system what the path of the account led to is there, if it could be renamed. -/
theorem moved_one_folder_deeper {s : QueueSettings} (hs : s.doneFolder = none) {t : FileTree}
    (ht : t.ProperNames) {folder : String} {q : AccountQueue} (hq : load s t folder = .ok q)
    {cs : List QueueCall} (hcs : ∀ t f, .load t f ∈ cs → ∀ q', load s t f ≠ .ok q')
    {files moved : FileTree} {id dest : String} {after : AccountQueue}
    {r : FileTree.MoveRefusals}
    (h : moveToDone s files (q.calls s cs) id r = (moved, .ok (dest, after))) :
    Path.Alike (Path.join (doneBelow folder ((q.moved s cs).count id + 1)) id) dest ∧
      (Path.Alike (Path.join (Path.join folder "done") id) dest ↔ id ∉ q.moved s cs) ∧
      ∃ a, (q.calls s cs).find? id = some a ∧ after.find? id = some { a with path := dest } ∧
        (files.Whole → r.rename = none → ∃ prepared old new e, files.MoreFolders prepared ∧
          prepared.resolve false a.path = .ok old ∧ prepared.resolve false dest = .ok new ∧
          prepared.lookup old = some e ∧ moved.lookup new = some e) := by
  obtain ⟨hne, hz, hloaded⟩ := nested_load ht hq
  have hnested := hloaded.calls hs hne hz hcs
  rw [List.nil_append] at hnested
  obtain ⟨a, ha, rfl, hmove, rfl⟩ := moveToDone_eq_ok h
  obtain ⟨hid, hname, hnext⟩ := hnested.dest_alike hs hne hz ha
  obtain ⟨hbelow, -⟩ := follows_doneBelow hne hz ((q.moved s cs).count id + 1)
  have halike := hnext.join hbelow hname
  rw [hid] at hmove ⊢
  refine ⟨halike, ⟨fun hfirst => ?_, fun hout => ?_⟩, a, ha, ?_, fun hfiles hr => ?_⟩
  · -- The number of parts tells how deep the file lies.
    obtain ⟨hfolder, -⟩ := follows_doneBelow hne hz 1
    have hparts := hfirst.parts.symm.trans halike.parts
    rw [Path.parts_join hbelow hname, parts_doneBelow hne hz] at hparts
    rw [show Path.join folder "done" = doneBelow folder 1 from rfl,
      Path.parts_join hfolder hname, parts_doneBelow hne hz] at hparts
    have hlen := congrArg List.length hparts
    simp only [List.length_append, List.length_replicate, List.length_singleton] at hlen
    exact List.count_eq_zero.1 (by omega)
  · rw [List.count_eq_zero.2 hout] at halike
    exact halike
  · rw [find?_replace (f := fun b => { b with path := Path.join (doneFolder s a.path) id })
      (fun _ => rfl), ha]
    rfl
  · have hwhole := hfiles.makeFolders (doneFolder s a.path) r.folder
    obtain ⟨old, new, e, hold, hnew, he, hthere⟩ := moved_is_there hwhole hr hmove
    exact ⟨_, old, new, e, FileTree.moreFolders_makeFolders files _ _, hold, hnew, he, hthere⟩

/-! ## Two passes -/

/-- The three accounts after the file of the first one was moved. -/
def threeAccountsMoved : AccountQueue :=
  { threeAccounts with
    accounts := replace (fun a => { a with path := "/in/done/a.xml" }) "a.xml"
      threeAccounts.accounts }

/-- Two passes over three accounts: the file of the first one is moved, the queue is reset, and the
file is moved again. -/
theorem two_passes : ∃ files,
    moveToDone {} threeFiles threeAccounts "a.xml" =
      (files, .ok ("/in/done/a.xml", threeAccountsMoved)) ∧
    threeAccounts.calls {} [.move threeFiles "a.xml", .reset] = threeAccountsMoved.reset ∧
    ∃ moved after, moveToDone {} files threeAccountsMoved.reset "a.xml" =
        (moved, .ok ("/in/done/done/a.xml", after)) ∧
      moved.lookup ["in", "done", "a.xml"] = none ∧
      moved.lookup ["in", "done", "done", "a.xml"] = some (.file "1") := by
  obtain ⟨-, -, hpath, hpath'⟩ := join_first
  obtain ⟨files, hfirst, hdone, hmoved⟩ := Depot.move_threeFiles (q := threeAccounts) rfl
  -- The second pass starts from the folder that the first one has made.
  have hempty : files.lookup (["in", "done"] ++ ["done"]) = none := by
    rw [hmoved.lookup_eq]
    rfl
  have hthere : files.lookup (["in", "done"] ++ ["a.xml"]) = some (.file "1") := by
    rw [hmoved.lookup_eq]
    rfl
  obtain ⟨moved, hsecond, -, hmoved'⟩ := moveToDone_succeeds (s := {}) rfl hmoved.plain
    (q := threeAccountsMoved.reset) (a := ⟨"a.xml", "/in/done/a.xml", .pending⟩) rfl hpath.symm
    hdone isName_first.1 hthere hempty
  simp only [doneFolder_first.2, hpath'] at hsecond
  refine ⟨files, hfirst, ?_, moved, _, hsecond, ?_, ?_⟩
  · simp only [calls, List.foldl_cons, List.foldl_nil, call, hfirst, Except.map, settle]
    rfl
  · rw [hmoved'.lookup_eq]
    rfl
  · rw [hmoved'.lookup_eq]
    rfl

/-- In the second pass the file goes to the second folder, since it was moved once before. -/
theorem second_pass_is_one_deeper :
    load {} threeFiles "/in" = .ok threeAccounts ∧
    threeAccounts.moved {} [.move threeFiles "a.xml", .reset] = ["a.xml"] ∧
    Path.Alike (Path.join (doneBelow "/in" 2) "a.xml") "/in/done/done/a.xml" ∧
    ¬ Path.Alike (Path.join (Path.join "/in" "done") "a.xml") "/in/done/done/a.xml" := by
  obtain ⟨files, hfirst, hcalls, moved, after, hsecond, -⟩ := two_passes
  have hmoved : threeAccounts.moved {} [.move threeFiles "a.xml", .reset] = ["a.xml"] := by
    simp only [AccountQueue.moved, moved?, hfirst]
    rfl
  have hcs : ∀ t f, QueueCall.load t f ∈ [.move threeFiles "a.xml", .reset] →
      ∀ q', load {} t f ≠ .ok q' := by
    simp
  rw [← hcalls] at hsecond
  obtain ⟨halike, hfirst_iff, -⟩ := moved_one_folder_deeper (s := {}) rfl
    Depot.plain_threeFiles.1.properNames load_threeFiles hcs hsecond
  rw [hmoved] at halike hfirst_iff
  exact ⟨load_threeFiles, hmoved, halike, fun h => hfirst_iff.1 h List.mem_cons_self⟩

/-- So there is more than one folder for the finished files of a folder: after a reset the file of
an account that was moved to `done` is moved on to `done/done`, and it is no longer where it was. -/
theorem second_pass_nests : load {} threeFiles "/in" = .ok threeAccounts ∧
    ∃ files moved after,
      (moveToDone {} threeFiles threeAccounts "a.xml").1 = files ∧
      moveToDone {} files (threeAccounts.calls {} [.move threeFiles "a.xml", .reset]) "a.xml" =
        (moved, .ok ("/in/done/done/a.xml", after)) ∧
      "/in/done/done/a.xml" ≠ Path.join (Path.join "/in" "done") "a.xml" ∧
      moved.lookup ["in", "done", "a.xml"] = none := by
  obtain ⟨files, hfirst, hcalls, moved, after, hsecond, hgone, -⟩ := two_passes
  obtain ⟨-, hjoin, hpath, -⟩ := join_first
  rw [hcalls, hjoin, hpath]
  exact ⟨load_threeFiles, files, moved, after, by rw [hfirst], hsecond, by decide, hgone⟩

end AccountQueue

end Autoplay
