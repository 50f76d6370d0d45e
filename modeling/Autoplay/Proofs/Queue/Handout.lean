import Autoplay.Proofs.Queue.Validity

/-!
# Handing out

Between two rewinds a queue hands out each account at most once, in the order of the names, and none
that is done with; and when it has none left, every account was handed out or is done with. The
proof carries `AccountQueue.Covered`: the names handed out since the last rewind are among those
that the cursor has passed, in the same order, and what it has passed was handed out or is done
with. Handing out moves the cursor behind what it hands out; every other call leaves names and
cursor alone.
-/

namespace Autoplay

/-- A call sets the cursor of a queue back. -/
def QueueCall.SetsBack (s : QueueSettings) : QueueCall → Prop
  | .load t folder refusal =>
    t.DistinctNames ∧ ∃ loaded, AccountQueue.load s t folder refusal = .ok loaded
  | c => c.isRewind = true

namespace AccountQueue

/-- What the cursor has passed is among some accounts or is done with. -/
def Accounted (q : AccountQueue) (handed : List String) : Prop :=
  ∀ id ∈ q.ids.take q.cursor, id ∈ handed ∨ id ∈ q.processed

namespace Accounted

variable {q : AccountQueue} {handed : List String}

/-- The order does not matter. -/
theorem perm (h : q.Accounted handed) {handed' : List String} (hp : handed.Perm handed') :
    q.Accounted handed' :=
  fun id hid => (h id hid).imp_left hp.mem_iff.1

/-- Nothing has been passed by a cursor at the start. -/
theorem start (h : q.cursor = 0) : q.Accounted handed := by
  rw [Accounted, h, List.take_zero]
  exact fun _ hid => absurd hid List.not_mem_nil

/-- What keeps places keeps this. -/
theorem of_samePlaces (h : q.Accounted handed) {r : AccountQueue} (hr : q.SamePlaces r) :
    r.Accounted handed := by
  unfold Accounted
  rw [hr.ids, hr.cursor]
  exact fun id hid => (h id hid).imp_right fun hp => hr.processed hp

/-- Handing out adds what is handed out. -/
theorem next (h : q.Accounted handed) :
    q.next.2.Accounted (handed ++ (q.next.1.map Account.id).toList) := by
  obtain ⟨haccounts, hprocessed, -⟩ := next_keeps q
  have hids : q.next.2.ids = q.ids := by rw [ids, haccounts, ids]
  intro id hid
  rw [hprocessed, List.mem_append]
  cases hn : q.next.1 with
  | none =>
    obtain ⟨hcursor, hdone⟩ := next_ends hn
    have hmem : id ∈ q.ids := hids ▸ List.mem_of_mem_take hid
    rw [← List.take_append_drop q.cursor q.ids, List.mem_append] at hmem
    -- Behind the old cursor all are done with, or one would have been handed out.
    refine hmem.elim (fun hold => (h id hold).imp_left .inl) fun hrest => .inr ?_
    rw [ids, ← List.map_drop] at hrest
    obtain ⟨a, ha, rfl⟩ := List.mem_map.1 hrest
    exact hdone a ha
  | some a =>
    obtain ⟨before, hpassed, hbefore, -⟩ := next_passes_ids hn
    -- Between the old cursor and what is handed out all are done with.
    rw [hids, hpassed, List.mem_append, List.mem_append] at hid
    obtain hid | hid | hid := hid
    · exact (h id hid).imp_left .inl
    · exact .inr (hbefore id hid)
    · exact .inl (.inr hid)

end Accounted

/-- What was handed out since the last rewind is what the cursor has passed, apart from accounts
that are done with. -/
structure Covered (q : AccountQueue) (handed : List String) : Prop where
  /-- What was handed out has been passed, in this order. -/
  passed : handed.Sublist (q.ids.take q.cursor)
  /-- What has been passed was handed out or is done with. -/
  accounted : q.Accounted handed

namespace Covered

variable {q : AccountQueue} {handed : List String}

/-- Nothing has been handed out by a queue whose cursor is at the start. -/
theorem start (h : q.cursor = 0) : q.Covered [] :=
  ⟨List.nil_sublist _, .start h⟩

/-- What keeps places keeps what was handed out. -/
theorem of_samePlaces (h : q.Covered handed) {r : AccountQueue} (hr : q.SamePlaces r) :
    r.Covered handed := by
  refine ⟨?_, h.accounted.of_samePlaces hr⟩
  rw [hr.ids, hr.cursor]
  exact h.passed

/-- Handing out adds what is handed out. -/
theorem next (h : q.Covered handed) :
    q.next.2.Covered (handed ++ (q.next.1.map Account.id).toList) := by
  obtain ⟨haccounts, -, -⟩ := next_keeps q
  have hids : q.next.2.ids = q.ids := by rw [ids, haccounts, ids]
  refine ⟨?_, h.accounted.next⟩
  rw [hids]
  cases hn : q.next.1 with
  | none =>
    rw [Option.map_none, Option.toList_none, List.append_nil]
    refine h.passed.trans (List.take_sublist_take_left ?_)
    rw [(next_ends hn).1]
    exact Nat.le_max_left _ _
  | some a =>
    obtain ⟨before, hpassed, -, -⟩ := next_passes_ids hn
    rw [hpassed]
    exact h.passed.append (List.sublist_append_right _ _)

/-- Every call that does not set the cursor back keeps track of what is handed out. -/
theorem call (h : q.Covered handed) (s : QueueSettings) {c : QueueCall}
    (hc : c.isRewind = false) :
    (q.call s c).Covered (handed ++ ((q.handed c).map Account.id).toList) := by
  obtain rfl | hkeeps := QueueCall.next_or_keepsPlaces hc
  · exact h.next
  · have hnone : q.handed c = none := by
      cases c <;> first | rfl | exact absurd hkeeps Bool.false_ne_true
    rw [hnone, Option.map_none, Option.toList_none, List.append_nil]
    exact h.of_samePlaces (call_keeps_places hkeeps)

/-- So does every sequence of such calls. -/
theorem calls (h : q.Covered handed) (s : QueueSettings) {cs : List QueueCall}
    (hcs : ∀ c ∈ cs, c.isRewind = false) :
    (q.calls s cs).Covered (handed ++ q.handouts s cs) := by
  induction cs generalizing q handed with
  | nil =>
    rw [handouts, List.append_nil]
    exact h
  | cons c cs ih =>
    obtain ⟨hc, hrest⟩ := List.forall_mem_cons.1 hcs
    rw [handouts, ← List.append_assoc]
    exact ih (h.call s hc) hrest

/-- When there is none left, every account was handed out or is done with. -/
theorem of_next_eq_none (h : q.Covered handed) (hn : q.next.1 = none) :
    ∀ id ∈ q.ids, id ∈ handed ∨ id ∈ q.processed := by
  intro id hid
  have hnext := h.next
  obtain ⟨haccounts, hprocessed, -⟩ := next_keeps q
  rw [hn, Option.map_none, Option.toList_none, List.append_nil] at hnext
  have hlen : q.next.2.ids.length ≤ q.next.2.cursor := by
    rw [ids, List.length_map, haccounts, (next_ends hn).1]
    omega
  have hall := hnext.accounted id
  rw [List.take_of_length_le hlen, ids, haccounts, hprocessed] at hall
  exact hall hid

end Covered

/-- Without setting the cursor back no account goes and none that is done with comes back. -/
theorem calls_grow {s : QueueSettings} {q : AccountQueue} {cs : List QueueCall}
    (hcs : ∀ c ∈ cs, c.isRewind = false) :
    (q.calls s cs).ids = q.ids ∧ q.processed ⊆ (q.calls s cs).processed := by
  induction cs generalizing q with
  | nil => exact ⟨rfl, fun _ h => h⟩
  | cons c cs ih =>
    obtain ⟨hc, hrest⟩ := List.forall_mem_cons.1 hcs
    have hstep : (q.call s c).ids = q.ids ∧ q.processed ⊆ (q.call s c).processed := by
      obtain rfl | hkeeps := QueueCall.next_or_keepsPlaces hc
      · obtain ⟨haccounts, hprocessed, -⟩ := next_keeps q
        exact ⟨congrArg (List.map Account.id) haccounts, fun _ h => hprocessed.symm ▸ h⟩
      · have hplaces := call_keeps_places (s := s) (q := q) hkeeps
        exact ⟨hplaces.ids, hplaces.processed⟩
    obtain ⟨hids, hprocessed⟩ := ih (q := q.call s c) hrest
    exact ⟨hids.trans hstep.1, fun _ h => hprocessed (hstep.2 h)⟩

/-- A sequence of calls is one part of it and then the other. -/
theorem handouts_append (s : QueueSettings) (q : AccountQueue) (cs ds : List QueueCall) :
    q.handouts s (cs ++ ds) = q.handouts s cs ++ (q.calls s cs).handouts s ds := by
  induction cs generalizing q with
  | nil => rfl
  | cons c cs ih =>
    rw [List.cons_append, handouts, handouts, ih, List.append_assoc]
    rfl

/-- A call that sets the cursor back leaves it at the start. -/
theorem cursor_of_setsBack {s : QueueSettings} {q : AccountQueue} {c : QueueCall}
    (h : c.SetsBack s) : (q.call s c).cursor = 0 := by
  cases c with
  | load t folder refusal =>
    obtain ⟨ht, loaded, hl⟩ := h
    show (q.settle (load s t folder refusal)).cursor = 0
    rw [hl]
    exact (load_valid ht hl).2.2
  | rewind => rfl
  | reset => rfl
  | next => exact absurd h (by simp [QueueCall.SetsBack, QueueCall.isRewind])
  | mark => exact absurd h (by simp [QueueCall.SetsBack, QueueCall.isRewind])
  | move => exact absurd h (by simp [QueueCall.SetsBack, QueueCall.isRewind])
  | delete => exact absurd h (by simp [QueueCall.SetsBack, QueueCall.isRewind])

/-- A call that sets the cursor back is sound. -/
theorem sound_of_setsBack {s : QueueSettings} {c : QueueCall} (h : c.SetsBack s) : c.Sound := by
  cases c <;> first | exact h.1 | trivial

/-- Between two rewinds, whatever came before and whoever makes the calls, accounts are handed out
in the order of their names, none twice, and none that is done with at that moment; and once there
is none left, every account has been handed out since the rewind or is done with. -/
theorem handouts_once_in_order (s : QueueSettings) (before : List QueueCall) (back : QueueCall)
    (cs : List QueueCall) (hbefore : ∀ c ∈ before, c.Sound) (hback : back.SetsBack s)
    (hcs : ∀ c ∈ cs, c.isRewind = false) :
    let start := (({} : AccountQueue).calls s before).call s back
    (start.handouts s cs).Pairwise (· < ·) ∧ (start.handouts s cs).Nodup ∧
      ∀ earlier later, cs = earlier ++ .next :: later →
        (∀ a, (start.calls s earlier).next.1 = some a → a.id ∉ (start.calls s earlier).processed) ∧
        ((start.calls s earlier).next.1 = none → ∀ a ∈ (start.calls s cs).accounts,
          a.id ∈ start.handouts s cs ∨ a.id ∈ (start.calls s cs).processed) := by
  intro start
  have hvalid : start.Valid := (valid_empty.calls s hbefore).call s (sound_of_setsBack hback)
  have hcovered : start.Covered [] := .start (cursor_of_setsBack hback)
  have hsorted : (start.handouts s cs).Pairwise (· < ·) := by
    -- What was handed out is part of the names, which are in their order.
    have hpassed := (hcovered.calls s hcs).passed
    rw [List.nil_append, (calls_grow hcs).1] at hpassed
    exact hvalid.sorted.sublist (hpassed.trans (List.take_sublist _ _))
  refine ⟨hsorted, hsorted.imp String.ne_of_lt, ?_⟩
  rintro earlier later rfl
  obtain ⟨hearlier, hlater⟩ := List.forall_mem_append.1 hcs
  refine ⟨fun a ha => ?_, fun hn a ha => ?_⟩
  · obtain ⟨-, before, -, -, hopen⟩ := next_passes ha
    exact hopen
  · -- From the moment when there was none left, nothing that counts is lost.
    have hmoment := (hcovered.calls s hearlier).of_next_eq_none hn
    obtain ⟨hids, hprocessed⟩ := calls_grow (q := start.calls s earlier) (s := s) hlater
    have hend : start.calls s (earlier ++ .next :: later) =
        (start.calls s earlier).calls s (.next :: later) := List.foldl_append
    rw [hend] at ha ⊢
    have hid : a.id ∈ (start.calls s earlier).ids := hids ▸ List.mem_map_of_mem ha
    rw [handouts_append, List.mem_append]
    exact (hmoment a.id hid).imp .inl fun h => hprocessed h

/-- Three accounts after a rewind, the second of which is marked before its turn: the other two are
handed out, and then there is none left. -/
theorem three_accounts_in_turn :
    let start := (({} : AccountQueue).calls {} [.load threeFiles "/in", .next]).call {} .rewind
    let cs := [.next, .mark "b.xml" none, .next, .next]
    (∀ c ∈ cs, c.isRewind = false) ∧ start.handouts {} cs = ["a.xml", "c.xml"] ∧
      (start.handouts {} cs).Pairwise (· < ·) ∧
      ∀ a ∈ (start.calls {} cs).accounts,
        a.id ∈ start.handouts {} cs ∨ a.id ∈ (start.calls {} cs).processed := by
  intro start cs
  have hstart : start = threeAccounts := by
    simp only [start, calls, List.foldl, call, load_threeFiles, settle]
    decide +kernel
  have hsound : ∀ c ∈ [QueueCall.load threeFiles "/in", .next], c.Sound := by
    simpa [QueueCall.Sound] using FileTree.distinctNames_of_nodup (by decide)
  have hcs : ∀ c ∈ cs, c.isRewind = false := by decide
  have h := handouts_once_in_order {} [.load threeFiles "/in", .next] .rewind cs hsound rfl hcs
  refine ⟨hcs, by rw [hstart]; decide +kernel, h.1, ?_⟩
  refine (h.2.2 [.next, .mark "b.xml" none, .next] [] rfl).2 ?_
  show (start.calls {} [.next, .mark "b.xml" none, .next]).next.1 = none
  rw [hstart]
  decide +kernel

end AccountQueue

end Autoplay
