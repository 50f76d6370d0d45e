import Autoplay.Queue.Storage

/-!
# Calls of a queue

A queue has one lock, so whatever several workers do to it together is a sequence of calls. A call
that deals with files is given the files as they are at that moment, and what the system refuses
then; so nothing is assumed about what else happens to them in between, nor about permissions. The
cursor of a queue and the accounts that are done with make up one view, `AccountQueue.waiting`: the
accounts that are yet to be handed out. Handing out takes the first of them (`waiting_eq_cons`), or
there is none (`next_eq_none_iff`).
-/

namespace Autoplay

/-- A call of a queue. -/
inductive QueueCall where
  /-- Replace the accounts by those of a folder. -/
  | load (t : FileTree) (folder : String) (refusal : Option SystemError := none)
  /-- Take the next account. -/
  | next
  /-- Note the result of processing an account. -/
  | mark (id : String) (failure : Option String)
  /-- Move the file of an account to the folder for finished ones. -/
  | move (t : FileTree) (id : String) (refusals : FileTree.MoveRefusals := {})
  /-- Delete the file of a broken account. -/
  | delete (t : FileTree) (id : String) (refusal : Option SystemError := none)
  /-- Hand out again from the start. -/
  | rewind
  /-- Forget what became of the accounts. -/
  | reset

namespace QueueCall

/-- Whether a call sets the cursor back. -/
def isRewind : QueueCall → Bool
  | .load .. => true
  | .rewind => true
  | .reset => true
  | _ => false

/-- Whether a call leaves the cursor alone. -/
def keepsPlaces : QueueCall → Bool
  | .mark .. => true
  | .move .. => true
  | .delete .. => true
  | _ => false

/-- A call that does not set the cursor back hands out or leaves it alone. -/
theorem next_or_keepsPlaces {c : QueueCall} (h : c.isRewind = false) :
    c = .next ∨ c.keepsPlaces = true := by
  cases c with
  | next => exact .inl rfl
  | mark | move | delete => exact .inr rfl
  | load | rewind | reset => exact absurd h.symm Bool.false_ne_true

end QueueCall

/-- What becomes of an account by the result of processing it: no message is a success. -/
def Outcome.ofFailure : Option String → Outcome
  | none => .succeeded
  | some message => .failed message

namespace AccountQueue

/-- The names of the accounts. -/
def ids (q : AccountQueue) : List String := q.accounts.map Account.id

/-- What became of the accounts, by name. -/
def outcomes (q : AccountQueue) : List (String × Outcome) :=
  q.accounts.map fun a => (a.id, a.outcome)

/-- The queue after an operation, which leaves it as it was if it fails. -/
def settle (q : AccountQueue) : Except QueueError AccountQueue → AccountQueue
  | .ok after => after
  | .error _ => q

/-- The queue after a call. -/
def call (s : QueueSettings) (q : AccountQueue) : QueueCall → AccountQueue
  | .load t folder refusal => q.settle (load s t folder refusal)
  | .next => q.next.2
  | .mark id failure => q.settle (q.markProcessed id failure)
  | .move t id refusals => q.settle ((moveToDone s t q id refusals).2.map Prod.snd)
  | .delete t id refusal => q.settle ((delete t q id refusal).map Prod.snd)
  | .rewind => q.rewind
  | .reset => q.reset

/-- The queue after some calls. -/
def calls (s : QueueSettings) (q : AccountQueue) (cs : List QueueCall) : AccountQueue :=
  cs.foldl (call s) q

/-- The account that a call hands out. -/
def handed (q : AccountQueue) : QueueCall → Option Account
  | .next => q.next.1
  | _ => none

/-- The names of the accounts that some calls hand out, the first one first. -/
def handouts (s : QueueSettings) : AccountQueue → List QueueCall → List String
  | _, [] => []
  | q, c :: cs => ((q.handed c).map Account.id).toList ++ handouts s (q.call s c) cs

/-- The accounts that are yet to be handed out. -/
def waiting (q : AccountQueue) : List Account :=
  (q.accounts.drop q.cursor).filter fun a => a.id ∉ q.processed

/-! ## Changes of one account -/

/-- What a change of an account keeps, the change of the first account of a name keeps of all. -/
theorem map_replace {β : Type} (g : Account → β) {f : Account → Account} (hf : ∀ a, g (f a) = g a)
    (id : String) (l : List Account) : (replace f id l).map g = l.map g := by
  induction l with
  | nil => rfl
  | cons a rest ih =>
    simp only [replace]
    split
    · simp only [List.map_cons, hf]
    · simp only [List.map_cons, ih]

/-- Among distinct names, to change the first account of a name is to change every one. -/
theorem replace_eq_map (f : Account → Account) (id : String) {l : List Account}
    (h : (l.map Account.id).Nodup) :
    replace f id l = l.map fun a => if a.id = id then f a else a := by
  induction l with
  | nil => rfl
  | cons a rest ih =>
    rw [List.map_cons, List.nodup_cons] at h
    simp only [replace, List.map_cons]
    split
    · next ha =>
      -- No other account has the name, so the rest is not changed.
      congr 1
      refine (List.map_congr_left fun b hb => ?_).trans (List.map_id _) |>.symm
      have hne : b.id ≠ id := fun e => h.1 (List.mem_map.2 ⟨b, hb, e.trans ha.symm⟩)
      rw [if_neg hne, id_eq]
    · rw [ih h.2]

/-- An account is found exactly when its name is one of the queue. -/
theorem find?_eq_none_iff (q : AccountQueue) (id : String) : q.find? id = none ↔ id ∉ q.ids := by
  simp only [find?, List.find?_eq_none, beq_iff_eq, ids, List.mem_map, not_exists, not_and]

/-- A name of the queue is that of an account which is found. -/
theorem exists_find? {q : AccountQueue} {id : String} (h : id ∈ q.ids) :
    ∃ a, q.find? id = some a := by
  cases hf : q.find? id with
  | none => exact absurd h ((find?_eq_none_iff q id).1 hf)
  | some a => exact ⟨a, rfl⟩

/-- An account of the queue can be marked. -/
theorem mark_eq {q : AccountQueue} {id : String} (h : id ∈ q.ids) (outcome : Outcome) :
    q.mark id outcome = .ok { q with
      accounts := replace (fun a => { a with outcome }) id q.accounts
      processed := addProcessed id q.processed } := by
  obtain ⟨a, ha⟩ := exists_find? h
  simp only [mark, ha]

/-- No other name can be marked. -/
theorem mark_eq_error {q : AccountQueue} {id : String} (h : id ∉ q.ids) (outcome : Outcome) :
    q.mark id outcome = .error (.unknownAccount id) := by
  simp only [mark, (find?_eq_none_iff q id).2 h]

/-! ## Handing out -/

/-- Nothing is open among accounts that are done with. -/
theorem firstOpen_eq_none_iff (p : List String) (l : List Account) :
    firstOpen p l = none ↔ l.filter (fun a => a.id ∉ p) = [] := by
  induction l with
  | nil => simp [firstOpen]
  | cons a rest ih =>
    simp only [firstOpen]
    split
    · next h => rw [Option.map_eq_none_iff, ih, List.filter_cons_of_neg (by simpa using h)]
    · next h => simp [h]

/-- The first open account stands behind accounts that are done with. -/
theorem firstOpen_eq_some {p : List String} {l : List Account} {a : Account} {n : Nat}
    (h : firstOpen p l = some (a, n)) :
    n ≤ l.length ∧ l.filter (fun a => a.id ∉ p) = a :: (l.drop n).filter (fun a => a.id ∉ p) ∧
      ∃ before, l.take n = before ++ [a] ∧ (∀ b ∈ before, b.id ∈ p) ∧ a.id ∉ p := by
  induction l generalizing n with
  | nil => simp [firstOpen] at h
  | cons b rest ih =>
    simp only [firstOpen] at h
    split at h
    · -- The head is done with, so it stands before the first open account.
      next hb =>
      obtain ⟨⟨c, m⟩, hm, heq⟩ := Option.map_eq_some_iff.1 h
      obtain ⟨rfl, rfl⟩ := Prod.mk.inj heq
      obtain ⟨hlen, hfilter, before, htake, hbefore, ha⟩ := ih hm
      refine ⟨by simpa using hlen, ?_, b :: before, ?_, ?_, ha⟩
      · rw [List.filter_cons_of_neg (by simpa using hb), hfilter, List.drop_succ_cons]
      · rw [List.take_succ_cons, htake, List.cons_append]
      · exact List.forall_mem_cons.2 ⟨hb, hbefore⟩
    · next hb =>
      obtain ⟨rfl, rfl⟩ := Prod.mk.inj (Option.some.inj h)
      exact ⟨by simp, by simp [hb], [], by simp, by simp, hb⟩

/-- Nothing is handed out exactly when nothing waits. -/
theorem next_eq_none_iff (q : AccountQueue) : q.next.1 = none ↔ q.waiting = [] := by
  rw [waiting, ← firstOpen_eq_none_iff]
  unfold next
  cases firstOpen q.processed (q.accounts.drop q.cursor) <;> simp

/-- What is handed out is the first account that waits; the others wait on. -/
theorem waiting_eq_cons {q : AccountQueue} {a : Account} (h : q.next.1 = some a) :
    q.waiting = a :: q.next.2.waiting := by
  unfold next at h ⊢
  cases hf : firstOpen q.processed (q.accounts.drop q.cursor) with
  | none => simp [hf] at h
  | some r =>
    obtain ⟨b, n⟩ := r
    simp only [hf, Option.some.injEq] at h
    subst h
    simp only [waiting]
    rw [(firstOpen_eq_some hf).2.1, List.drop_drop]

/-- Handing out changes the cursor only. -/
theorem next_keeps (q : AccountQueue) :
    q.next.2.accounts = q.accounts ∧ q.next.2.processed = q.processed ∧
      q.next.2.folder = q.folder := by
  unfold next
  cases firstOpen q.processed (q.accounts.drop q.cursor) <;> exact ⟨rfl, rfl, rfl⟩

/-- Handing out does not set the cursor back. -/
theorem cursor_le_next (q : AccountQueue) : q.cursor ≤ q.next.2.cursor := by
  unfold next
  cases firstOpen q.processed (q.accounts.drop q.cursor) with
  | none => exact Nat.le_max_left _ _
  | some r => exact Nat.le_add_right _ _

/-- Up to the account that is handed out the cursor passes accounts that are done with. -/
theorem next_passes {q : AccountQueue} {a : Account} (h : q.next.1 = some a) :
    q.next.2.cursor ≤ q.accounts.length ∧
      ∃ before, q.accounts.take q.next.2.cursor = q.accounts.take q.cursor ++ (before ++ [a]) ∧
        (∀ b ∈ before, b.id ∈ q.processed) ∧ a.id ∉ q.processed := by
  unfold next at h ⊢
  cases hf : firstOpen q.processed (q.accounts.drop q.cursor) with
  | none => simp [hf] at h
  | some r =>
    obtain ⟨b, n⟩ := r
    simp only [hf, Option.some.injEq] at h
    subst h
    obtain ⟨hlen, -, before, htake, hbefore, hb⟩ := firstOpen_eq_some hf
    -- As many accounts are passed as stand up to the one that is handed out.
    have hcount := congrArg List.length htake
    simp only [List.length_take, List.length_drop, List.length_append, List.length_singleton]
      at hlen hcount
    refine ⟨by simp only; omega, before, ?_, hbefore, hb⟩
    simp only [List.take_add, htake]

/-- The same in names. -/
theorem next_passes_ids {q : AccountQueue} {a : Account} (h : q.next.1 = some a) :
    ∃ before, q.ids.take q.next.2.cursor = q.ids.take q.cursor ++ (before ++ [a.id]) ∧
      (∀ id ∈ before, id ∈ q.processed) ∧ a.id ∉ q.processed := by
  obtain ⟨-, before, htake, hbefore, hopen⟩ := next_passes h
  refine ⟨before.map Account.id, ?_, ?_, hopen⟩
  · rw [ids, ← List.map_take, htake, List.map_append, List.map_append, List.map_take,
      List.map_singleton]
  · intro id hid
    obtain ⟨b, hb, rfl⟩ := List.mem_map.1 hid
    exact hbefore b hb

/-- When nothing is handed out the cursor passes all accounts, and those that it passes are done
with. -/
theorem next_ends {q : AccountQueue} (h : q.next.1 = none) :
    q.next.2.cursor = max q.cursor q.accounts.length ∧
      ∀ a ∈ q.accounts.drop q.cursor, a.id ∈ q.processed := by
  have hw : q.waiting = [] := (next_eq_none_iff q).1 h
  constructor
  · unfold next at h ⊢
    cases hf : firstOpen q.processed (q.accounts.drop q.cursor) with
    | none => rfl
    | some r => simp [hf] at h
  · intro a ha
    have hout := List.filter_eq_nil_iff.1 hw a ha
    simpa using hout

end AccountQueue

end Autoplay
