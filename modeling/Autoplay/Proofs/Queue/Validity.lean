import Autoplay.Proofs.Queue.Calls
import Mathlib.Data.List.Nodup
import Mathlib.Tactic.FinCases

/-!
# Valid queues

Names, outcomes, cursor and the set of accounts that are done with say some things twice;
`AccountQueue.Valid` states that they agree. Main statement: every sequence of calls leads from a
valid queue to a valid one (`Valid.calls`), if the names in each folder that is loaded are distinct.
So the numbers that are told of a queue add up (`calls_keep_count`).
Marking, moving and deleting an account leave names and cursor alone (`call_keeps_places`), which is
all that the order of handing out depends on.
-/

namespace Autoplay

/-- No folder of a tree has two entries of one name. -/
def FileTree.DistinctNames (t : FileTree) : Prop := ∀ l, (t.names l).Nodup

/-- A tree whose table lists no place twice has distinct names in each folder. -/
theorem FileTree.distinctNames_of_nodup {t : FileTree} (h : (t.entries.map (·.1)).Nodup) :
    t.DistinctNames := by
  intro l
  unfold names
  generalize t.entries = es at h
  induction es with
  | nil => exact .nil
  | cons x es ih =>
    obtain ⟨m, e⟩ := x
    rw [List.map_cons, List.nodup_cons] at h
    rw [List.filterMap_cons]
    split
    · exact ih h.2
    · next name hname =>
      refine List.nodup_cons.2 ⟨fun hmem => ?_, ih h.2⟩
      obtain ⟨⟨m', e'⟩, hmem', hname'⟩ := List.mem_filterMap.1 hmem
      -- Two entries of one name in one folder are at one place.
      have hplace : ∀ k : Location, (if k.dropLast = l then k.getLast? else none) = some name →
          k = l ++ [name] := by
        intro k hk
        split at hk
        · next hd => rw [← hd, List.dropLast_append_getLast? name hk]
        · exact absurd hk (by simp)
      have hm : m = m' := (hplace m hname).trans (hplace m' hname').symm
      exact h.1 (List.mem_map.2 ⟨_, hmem', hm.symm⟩)

/-- What a call needs of the files that it sees. -/
def QueueCall.Sound : QueueCall → Prop
  | .load t .. => t.DistinctNames
  | _ => True

namespace AccountQueue

/-- The parts of a queue agree. -/
structure Valid (q : AccountQueue) : Prop where
  /-- The accounts are in the order of their names, no two of which are the same. -/
  sorted : q.ids.Pairwise (· < ·)
  /-- The cursor does not pass the last account. -/
  cursor_le : q.cursor ≤ q.accounts.length
  /-- No account is done with twice. -/
  nodup : q.processed.Nodup
  /-- Only accounts of the queue are done with. -/
  known : ∀ id ∈ q.processed, id ∈ q.ids
  /-- Nothing has become of exactly those accounts that are not done with. -/
  pending_iff : ∀ a ∈ q.accounts, a.outcome = .pending ↔ a.id ∉ q.processed

/-- The queue without accounts is valid. -/
theorem valid_empty : Valid {} :=
  ⟨.nil, Nat.le_refl 0, .nil, fun _ h => absurd h List.not_mem_nil,
    fun _ h => absurd h List.not_mem_nil⟩

namespace Valid

variable {q : AccountQueue}

/-- The names of a valid queue are distinct. -/
theorem ids_nodup (hq : q.Valid) : q.ids.Nodup :=
  hq.sorted.imp String.ne_of_lt

end Valid

/-! ## Loading -/

/-- The names in a folder are listed in their order. -/
theorem list_sorted {t : FileTree} (ht : t.DistinctNames) {folder : String} {names : List String}
    (h : t.list folder = .ok names) : names.Pairwise (· < ·) := by
  unfold FileTree.list at h
  cases hl : t.resolve true folder with
  | error e => simp [hl, bind, Except.bind] at h
  | ok l =>
    simp only [hl, bind, Except.bind] at h
    split at h
    · rw [Except.ok.injEq] at h
      subst h
      -- Sorting alone leaves equal names side by side; there are none.
      have hle : ((t.names l).mergeSort fun a b => !(b < a)).Pairwise
          fun a b => (!decide (b < a)) = true := by
        refine List.pairwise_mergeSort (fun a b c hab hbc => ?_) (fun a b => ?_) _
        · simp only [Bool.not_eq_true', decide_eq_false_iff_not, String.not_lt] at *
          exact String.le_trans hab hbc
        · simp only [Bool.or_eq_true, Bool.not_eq_true', decide_eq_false_iff_not, String.not_lt]
          exact String.le_total a b
      have hne : ((t.names l).mergeSort fun a b => !(b < a)).Pairwise (· ≠ ·) :=
        (List.mergeSort_perm _ _).nodup_iff.2 (ht l)
      refine (hle.and hne).imp fun ⟨hab, hneq⟩ => ?_
      simp only [Bool.not_eq_true', decide_eq_false_iff_not, String.not_lt] at hab
      exact String.not_le.1 fun hba => hneq (String.le_antisymm hab hba)
    · exact absurd h (by simp)
    · exact absurd h (by simp)

/-- A queue that was loaded is valid, has nothing done with, and hands out from its start. -/
theorem load_valid {s : QueueSettings} {t : FileTree} (ht : t.DistinctNames) {folder : String}
    {refusal : Option SystemError} {q : AccountQueue} (h : load s t folder refusal = .ok q) :
    q.Valid ∧ q.processed = [] ∧ q.cursor = 0 := by
  unfold load at h
  split at h
  · exact absurd h (by simp)
  · cases hlist : SystemError.refusing refusal (t.list folder) with
    | error e => simp [hlist] at h
    | ok names =>
      have hn := (SystemError.refusing_eq_ok.1 hlist).2
      simp only [hlist, Except.ok.injEq] at h
      subst h
      refine ⟨⟨?_, Nat.zero_le _, .nil, fun _ hid => absurd hid List.not_mem_nil, ?_⟩, rfl, rfl⟩
      · simp only [ids, List.map_map]
        exact (list_sorted ht hn).filter _ |>.map _ fun _ _ hab => hab
      · intro a ha
        obtain ⟨n, -, rfl⟩ := List.mem_map.1 ha
        simp

/-- Of the settings, loading needs the extension of account files only. -/
theorem load_congr {s s' : QueueSettings} (h : s.extension = s'.extension) (t : FileTree)
    (folder : String) : load s t folder = load s' t folder := by
  simp only [load, isAccountFile, bareExtension, h]

/-- A folder with three account files. -/
def threeFiles : FileTree where
  entries := [(["in"], .folder), (["in", "c.xml"], .file "3"), (["in", "a.xml"], .file "1"),
    (["in", "b.xml"], .file "2")]

/-- The three accounts of the folder. -/
def threeAccounts : AccountQueue where
  folder := some "/in"
  accounts := [⟨"a.xml", "/in/a.xml", .pending⟩, ⟨"b.xml", "/in/b.xml", .pending⟩,
    ⟨"c.xml", "/in/c.xml", .pending⟩]

/-- Loading the folder gives its accounts by name. -/
theorem load_threeFiles : load {} threeFiles "/in" = .ok threeAccounts := by
  have hin : threeFiles.resolve true "/in" = .ok ["in"] := by
    have hsteps : FileTree.steps "/in" = ["in"] := by decide +kernel
    have hsize : "in".utf8ByteSize = 2 := by decide +kernel
    simp [FileTree.resolve, hsteps, FileTree.walk, FileTree.lookup, threeFiles,
      FileTree.nameLimit, hsize]
  -- The sort is carried out for any order that puts the three names so.
  have hsort {le : String → String → Bool} (hca : le "c.xml" "a.xml" = false)
      (hab : le "a.xml" "b.xml" = true) (hcb : le "c.xml" "b.xml" = false) :
      ["c.xml", "a.xml", "b.xml"].mergeSort le = ["a.xml", "b.xml", "c.xml"] := by
    simp [List.mergeSort, List.MergeSort.Internal.splitInTwo, hca, hab, hcb]
  have hlist : threeFiles.list "/in" = .ok ["a.xml", "b.xml", "c.xml"] := by
    have hlookup : threeFiles.lookup ["in"] = some .folder := by decide +kernel
    have hnames : threeFiles.names ["in"] = ["c.xml", "a.xml", "b.xml"] := by decide +kernel
    simp only [FileTree.list, hin, bind, Except.bind, hlookup, hnames]
    rw [hsort] <;> decide +kernel
  have hfile : ∀ n ∈ ["a.xml", "b.xml", "c.xml"],
      isAccountFile {} threeFiles (Path.join "/in" n) = true := by
    intro n hn
    have hpath : FileTree.steps (Path.join "/in" n) = ["in", n] ∧
        Path.isAbsolute (Path.join "/in" n) = true ∧ (Path.join "/in" n).isEmpty = false ∧
        (Path.join "/in" n).toList.contains (Char.ofNat 0) = false ∧ n.utf8ByteSize = 5 ∧
        n ≠ "." ∧ n ≠ ".." ∧ "in".utf8ByteSize = 2 := by
      revert n
      decide +kernel
    have hresolve : threeFiles.resolve true (Path.join "/in" n) = .ok ["in", n] := by
      obtain ⟨hsteps, habsolute, hempty, hzero, hsize, hdot, hup, hsize'⟩ := hpath
      simp only [FileTree.resolve, hempty, hzero, hsteps, habsolute]
      fin_cases hn <;>
        simp_all [FileTree.walk, FileTree.nameLimit, FileTree.lookup, threeFiles]
    clear hpath
    simp only [isAccountFile, FileTree.isFile, FileTree.find?, hresolve]
    clear hresolve
    revert n
    decide +kernel
  have hfolder : threeFiles.isFolder "/in" = true := by
    simp only [FileTree.isFolder, FileTree.find?, hin]
    decide +kernel
  rw [load, hfolder, hlist]
  simp only [SystemError.refusing_none, List.filter_eq_self.2 hfile]
  decide +kernel

/-! ## Calls that keep places -/

/-- Two queues have the same names and the same cursor, and in the second one at least as much is
done with. -/
structure SamePlaces (q r : AccountQueue) : Prop where
  /-- The same names. -/
  ids : r.ids = q.ids
  /-- The same cursor. -/
  cursor : r.cursor = q.cursor
  /-- As much is done with. -/
  processed : q.processed ⊆ r.processed

/-- A queue keeps its own places. -/
theorem SamePlaces.refl (q : AccountQueue) : q.SamePlaces q := ⟨rfl, rfl, fun _ h => h⟩

/-- Adding a name to those that are done with takes none away. -/
theorem mem_addProcessed {id m : String} {p : List String} :
    m ∈ addProcessed id p ↔ m ∈ p ∨ m = id := by
  unfold addProcessed
  split
  · next h => exact ⟨.inl, fun hm => hm.elim (fun x => x) fun e => e ▸ h⟩
  · rw [List.mem_append, List.mem_singleton]

/-- To note the result of processing an account is to mark it with what became of it. -/
theorem call_mark (s : QueueSettings) (q : AccountQueue) (id : String) (failure : Option String) :
    q.call s (.mark id failure) = q.settle (q.mark id (.ofFailure failure)) := by
  cases failure <;> rfl

/-- Marking keeps places. -/
theorem mark_keeps_places (q : AccountQueue) (id : String) (outcome : Outcome) :
    q.SamePlaces (q.settle (q.mark id outcome)) := by
  by_cases h : id ∈ q.ids
  · rw [mark_eq h]
    exact ⟨map_replace Account.id (f := fun a => { a with outcome }) (fun _ => rfl) id _, rfl,
      fun _ hm => mem_addProcessed.2 (.inl hm)⟩
  · rw [mark_eq_error h]
    exact .refl q

/-- Moving the file of an account changes no more than its path. -/
theorem move_settles (s : QueueSettings) (t : FileTree) (q : AccountQueue) (id : String)
    (r : FileTree.MoveRefusals) : q.call s (.move t id r) = q ∨
      ∃ path, q.call s (.move t id r) =
        { q with accounts := replace (fun a => { a with path }) id q.accounts } := by
  simp only [call, moveToDone]
  split
  · exact .inl rfl
  · split
    · exact .inl rfl
    · split
      · exact .inl rfl
      · exact .inr ⟨_, rfl⟩

/-- Deleting the file of an account marks it or changes nothing. -/
theorem delete_settles (s : QueueSettings) (t : FileTree) (q : AccountQueue) (id : String)
    (refusal : Option SystemError) : q.call s (.delete t id refusal) = q ∨
      q.call s (.delete t id refusal) = q.settle (q.mark id .discarded) := by
  simp only [call, delete]
  split
  · exact .inl rfl
  · split
    · right
      cases q.mark id .discarded <;> rfl
    · exact .inl rfl
    · right
      cases q.mark id .discarded <;> rfl

/-- Calls that leave the cursor alone keep places. -/
theorem call_keeps_places {s : QueueSettings} {q : AccountQueue} {c : QueueCall}
    (hc : c.keepsPlaces = true) : q.SamePlaces (q.call s c) := by
  cases c with
  | load | next | rewind | reset => exact absurd hc Bool.false_ne_true
  | mark id failure =>
    rw [call_mark]
    exact mark_keeps_places q id _
  | move t id r =>
    obtain h | ⟨path, h⟩ := move_settles s t q id r
    · rw [h]
      exact .refl q
    · rw [h]
      exact ⟨map_replace Account.id (f := fun a => { a with path }) (fun _ => rfl) id _, rfl,
        fun _ hm => hm⟩
  | delete t id refusal =>
    obtain h | h := delete_settles s t q id refusal
    · rw [h]
      exact .refl q
    · rw [h]
      exact mark_keeps_places q id .discarded

/-! ## Validity is kept -/

namespace Valid

variable {q : AccountQueue}

/-- A queue stays valid when one account is changed, if the names that are done with then are those
of the accounts of which something has become. -/
theorem changed (hq : q.Valid) {f : Account → Account} (hf : ∀ a, (f a).id = a.id) (id : String)
    {p : List String} (hnodup : p.Nodup) (hknown : ∀ m ∈ p, m ∈ q.ids)
    (hpending : ∀ a ∈ q.accounts,
      (if a.id = id then f a else a).outcome = .pending ↔ a.id ∉ p) :
    Valid { q with accounts := replace f id q.accounts, processed := p } := by
  have hids : (replace f id q.accounts).map Account.id = q.ids := map_replace Account.id hf id _
  have hlen : (replace f id q.accounts).length = q.accounts.length := by
    simpa [ids] using congrArg List.length hids
  refine ⟨?_, hlen ▸ hq.cursor_le, hnodup, fun m hm => ?_, fun a ha => ?_⟩
  · rw [ids, hids]
    exact hq.sorted
  · rw [ids, hids]
    exact hknown m hm
  · simp only at ha ⊢
    rw [replace_eq_map f id hq.ids_nodup] at ha
    obtain ⟨b, hb, rfl⟩ := List.mem_map.1 ha
    have hid : (if b.id = id then f b else b).id = b.id := by
      split
      · exact hf b
      · rfl
    rw [hid]
    exact hpending b hb

/-- Marking with something that has become of the account keeps a queue valid. -/
theorem mark (hq : q.Valid) (id : String) {outcome : Outcome} (ho : outcome ≠ .pending) :
    (q.settle (q.mark id outcome)).Valid := by
  by_cases h : id ∈ q.ids
  · rw [mark_eq h]
    refine hq.changed (f := fun a => { a with outcome }) (fun _ => rfl) id ?_ (fun m hm => ?_)
      fun a ha => ?_
    · unfold addProcessed
      split
      · exact hq.nodup
      · next hnew =>
        exact List.nodup_append.2 ⟨hq.nodup, List.nodup_singleton id, fun a ha b hb e =>
          hnew (List.mem_singleton.1 hb ▸ e ▸ ha)⟩
    · exact (mem_addProcessed.1 hm).elim (hq.known m) fun e => e ▸ h
    · -- Only the marked account is done with now and was not before.
      split
      · next e => simp [ho, mem_addProcessed, e]
      · next e => simp [mem_addProcessed, e, hq.pending_iff a ha]
  · rw [mark_eq_error h]
    exact hq

/-- Every call keeps a queue valid. -/
theorem call (hq : q.Valid) (s : QueueSettings) {c : QueueCall} (hc : c.Sound) :
    (q.call s c).Valid := by
  cases c with
  | load t folder refusal =>
    show (q.settle (AccountQueue.load s t folder refusal)).Valid
    cases h : AccountQueue.load s t folder refusal with
    | error e => exact hq
    | ok loaded => exact (load_valid hc h).1
  | next =>
    obtain ⟨ha, hp, -⟩ := next_keeps q
    have hcursor : q.next.2.cursor ≤ q.accounts.length := by
      cases h : q.next.1 with
      | none =>
        rw [(next_ends h).1]
        exact max_le hq.cursor_le (Nat.le_refl _)
      | some a => exact (next_passes h).1
    show q.next.2.Valid
    exact ⟨by rw [ids, ha]; exact hq.sorted, by rw [ha]; exact hcursor, by rw [hp]; exact hq.nodup,
      by rw [hp, ids, ha]; exact hq.known, by rw [ha, hp]; exact hq.pending_iff⟩
  | mark id failure =>
    rw [call_mark]
    refine hq.mark id ?_
    cases failure <;> simp [Outcome.ofFailure]
  | move t id r =>
    obtain h | ⟨path, h⟩ := move_settles s t q id r
    · rw [h]
      exact hq
    · rw [h]
      refine hq.changed (f := fun a => { a with path }) (fun _ => rfl) id hq.nodup hq.known
        fun a ha => ?_
      split <;> exact hq.pending_iff a ha
  | delete t id refusal =>
    obtain h | h := delete_settles s t q id refusal
    · rw [h]
      exact hq
    · rw [h]
      exact hq.mark id (by simp)
  | rewind => exact ⟨hq.sorted, Nat.zero_le _, hq.nodup, hq.known, hq.pending_iff⟩
  | reset =>
    have hids : q.reset.ids = q.ids := by simp [ids, AccountQueue.reset, Function.comp_def]
    refine ⟨hids ▸ hq.sorted, Nat.zero_le _, .nil, fun _ h => absurd h List.not_mem_nil, ?_⟩
    intro a ha
    obtain ⟨b, -, rfl⟩ := List.mem_map.1 ha
    simp [AccountQueue.call, AccountQueue.reset]

/-- Every sequence of calls keeps a queue valid. -/
theorem calls (hq : q.Valid) (s : QueueSettings) {cs : List QueueCall} (hcs : ∀ c ∈ cs, c.Sound) :
    (q.calls s cs).Valid := by
  induction cs generalizing q with
  | nil => exact hq
  | cons c cs ih =>
    obtain ⟨hc, hrest⟩ := List.forall_mem_cons.1 hcs
    exact ih (hq.call s hc) hrest

/-! ## Counts -/

/-- The accounts that are done with are those of which something has become. -/
theorem processed_perm (hq : q.Valid) :
    q.processed.Perm ((q.accounts.filter fun a => a.outcome ≠ .pending).map Account.id) := by
  have hnodup : ((q.accounts.filter fun a => a.outcome ≠ .pending).map Account.id).Nodup :=
    hq.ids_nodup.sublist (List.filter_sublist.map _)
  refine (List.perm_ext_iff_of_nodup hq.nodup hnodup).2 fun id => ?_
  simp only [List.mem_map, List.mem_filter, decide_eq_true_eq]
  constructor
  · intro hid
    obtain ⟨a, ha, rfl⟩ := List.mem_map.1 (hq.known id hid)
    exact ⟨a, ⟨ha, fun hout => (hq.pending_iff a ha).1 hout hid⟩, rfl⟩
  · rintro ⟨a, ⟨ha, hout⟩, rfl⟩
    exact not_not.1 fun hid => hout ((hq.pending_iff a ha).2 hid)

/-- No more accounts are done with than there are, and nothing has become of the others. -/
theorem counts (hq : q.Valid) :
    q.processedCount ≤ q.total ∧ q.remaining + q.processedCount = q.total ∧
      q.remaining = q.accounts.countP fun a => a.outcome = .pending := by
  have hcount : q.processedCount = q.accounts.countP fun a => a.outcome ≠ .pending := by
    rw [processedCount, hq.processed_perm.length_eq, List.length_map, List.countP_eq_length_filter]
  have hsplit : q.total = (q.accounts.countP fun a => a.outcome = .pending) +
      q.accounts.countP fun a => a.outcome ≠ .pending := by
    rw [total, List.length_eq_countP_add_countP fun a : Account => a.outcome = .pending]
    simp only [decide_eq_true_eq, ne_eq]
  rw [remaining]
  omega

end Valid

/-- After any calls, failing ones included, the parts of a queue agree: the accounts are in the
order of their names, the cursor does not pass the last one, only accounts of the queue are done
with, and nothing has become of exactly the others. So no more accounts are done with than there
are, and as many remain as have nothing become of them. -/
theorem calls_keep_count (s : QueueSettings) {cs : List QueueCall} (hcs : ∀ c ∈ cs, c.Sound)
    {q : AccountQueue} (hq : q = ({} : AccountQueue).calls s cs) :
    q.ids.Pairwise (· < ·) ∧ q.cursor ≤ q.total ∧ q.processed.Nodup ∧
      (∀ id ∈ q.processed, id ∈ q.ids) ∧
      (∀ a ∈ q.accounts, a.outcome = .pending ↔ a.id ∉ q.processed) ∧
      q.processedCount ≤ q.total ∧ q.remaining + q.processedCount = q.total ∧
      q.remaining = q.accounts.countP fun a => a.outcome = .pending := by
  subst hq
  have hvalid : (({} : AccountQueue).calls s cs).Valid := valid_empty.calls s hcs
  exact ⟨hvalid.sorted, hvalid.cursor_le, hvalid.nodup, hvalid.known, hvalid.pending_iff,
    hvalid.counts⟩

/-- Of three accounts one is marked; then a mark of no account, a move of none and the loading of a
missing folder fail. -/
theorem three_accounts_keep_count : ∃ q : AccountQueue,
    q = ({} : AccountQueue).calls {} [.load threeFiles "/in", .next, .mark "a.xml" none, .next,
      .mark "z.xml" none, .move threeFiles "z.xml", .load {} "/out"] ∧
    q.processedCount = 1 ∧ q.remaining = 2 ∧ q.remaining + q.processedCount = q.total := by
  have hdistinct : threeFiles.DistinctNames := FileTree.distinctNames_of_nodup (by decide +kernel)
  have hempty : FileTree.DistinctNames {} := fun _ => .nil
  have hsound : ∀ c ∈ [QueueCall.load threeFiles "/in", .next, .mark "a.xml" none, .next,
      .mark "z.xml" none, .move threeFiles "z.xml", .load {} "/out"], c.Sound := by
    simp [QueueCall.Sound, hdistinct, hempty]
  obtain ⟨-, -, -, -, -, -, hsum, -⟩ := calls_keep_count {} hsound rfl
  have hload : ({} : AccountQueue).call {} (.load threeFiles "/in") = threeAccounts := by
    rw [call, load_threeFiles, settle]
  have hmissing : load {} {} "/out" = .error (.invalidFolder "/out") := by
    have hsteps : FileTree.steps "/out" = ["out"] := by decide +kernel
    have hsize : "out".utf8ByteSize = 3 := by decide +kernel
    have hout : FileTree.isFolder {} "/out" = false := by
      simp [FileTree.isFolder, FileTree.find?, FileTree.resolve, hsteps, FileTree.walk,
        FileTree.lookup, FileTree.nameLimit, hsize]
    rw [load, hout]
    rfl
  have hend : ∀ q : AccountQueue, q.call {} (.load {} "/out") = q := by
    intro q
    rw [call, hmissing, settle]
  refine ⟨_, rfl, ?_, ?_, hsum⟩
  all_goals
    rw [calls, List.foldl_cons, hload]
    simp only [List.foldl_cons, List.foldl_nil, hend]
    decide +kernel

end AccountQueue

end Autoplay
