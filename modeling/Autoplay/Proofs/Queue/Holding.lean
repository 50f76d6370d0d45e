import Autoplay.Proofs.Queue.Handout

/-!
# Held accounts

Between the moment when an account is handed out and the moment when it is marked or given up, a
worker holds it. `AccountQueue.Holds` states how the held accounts stand to the queue: the cursor
has passed them, none is held twice, and none is done with. Handing out adds one (`Holds.next`),
marking makes one done with (`Holds.mark`), and some can always be given up (`Holds.of_append`).
-/

namespace Autoplay.AccountQueue

/-! ## Outcomes -/

/-- Handing out changes no outcome. -/
theorem outcomes_next (q : AccountQueue) : q.next.2.outcomes = q.outcomes :=
  congrArg (List.map fun a : Account => (a.id, a.outcome)) (next_keeps q).1

/-- Moving the file of an account changes no outcome. -/
theorem outcomes_move (s : QueueSettings) (t : FileTree) (q : AccountQueue) (id : String)
    (r : FileTree.MoveRefusals) : (q.call s (.move t id r)).outcomes = q.outcomes := by
  obtain h | ⟨path, h⟩ := move_settles s t q id r
  · rw [h]
  · rw [h]
    exact map_replace (fun a => (a.id, a.outcome)) (f := fun a => { a with path })
      (fun _ => rfl) id _

/-- Marking an account changes its outcome and no other. -/
theorem outcomes_mark {q : AccountQueue} (hq : q.Valid) {id : String} (hid : id ∈ q.ids)
    (s : QueueSettings) (failure : Option String) :
    (q.call s (.mark id failure)).outcomes =
      q.outcomes.map fun x => if x.1 = id then (id, .ofFailure failure) else x := by
  rw [call_mark, mark_eq hid]
  simp only [settle, outcomes]
  rw [replace_eq_map _ _ hq.ids_nodup, List.map_map, List.map_map]
  refine List.map_congr_left fun a _ => ?_
  simp only [Function.comp_apply]
  split
  next h => rw [h]
  next => rfl

/-! ## Holding -/

/-- What is marked is done with and need not be held. -/
theorem Accounted.mark {q : AccountQueue} {id : String} {held : List String}
    (h : q.Accounted (id :: held)) (s : QueueSettings) (failure : Option String) :
    (q.call s (.mark id failure)).Accounted held := by
  have hplaces := call_keeps_places (s := s) (q := q) (c := .mark id failure) rfl
  intro m hm
  rw [hplaces.ids, hplaces.cursor] at hm
  obtain hm' | hm' := h m hm
  · obtain rfl | hm' := List.mem_cons.1 hm'
    · refine .inr ?_
      rw [call_mark, mark_eq (List.mem_of_mem_take hm)]
      exact mem_addProcessed.2 (.inr rfl)
    · exact .inl hm'
  · exact .inr (hplaces.processed hm')

/-- Some accounts of a queue are held. -/
structure Holds (q : AccountQueue) (held : List String) : Prop where
  /-- The queue is valid. -/
  valid : q.Valid
  /-- None is held twice, and none is done with. -/
  nodup : (held ++ q.processed).Nodup
  /-- The cursor has passed them. -/
  passed : ∀ id ∈ held, id ∈ q.ids.take q.cursor

variable {q : AccountQueue} {held : List String} {id : String}

/-- Nothing is held. -/
theorem holds_nil (hq : q.Valid) : q.Holds [] :=
  ⟨hq, hq.nodup, fun _ h => absurd h List.not_mem_nil⟩

namespace Holds

/-- The order does not matter. -/
theorem perm (h : q.Holds held) {held' : List String} (hp : held.Perm held') : q.Holds held' :=
  ⟨h.valid, (hp.append_right _).nodup_iff.1 h.nodup, fun _ hid => h.passed _ (hp.mem_iff.2 hid)⟩

/-- What is held is an account of the queue. -/
theorem mem_ids (h : q.Holds held) (hid : id ∈ held) : id ∈ q.ids :=
  List.mem_of_mem_take (h.passed id hid)

/-- What is held is not done with. -/
theorem not_processed (h : q.Holds held) (hid : id ∈ held) : id ∉ q.processed :=
  fun hp => (List.nodup_append.1 h.nodup).2.2 id hid id hp rfl

/-- Some are given up. -/
theorem of_append {some : List String} (h : q.Holds (some ++ held)) : q.Holds held := by
  refine ⟨h.valid, ?_, fun id hid => h.passed id (List.mem_append_right _ hid)⟩
  have hnodup := h.nodup
  rw [List.append_assoc] at hnodup
  exact (List.nodup_append.1 hnodup).2.1

/-- One is handed out, or none. -/
theorem next (h : q.Holds held) : q.next.2.Holds ((q.next.1.map Account.id).toList ++ held) := by
  obtain ⟨haccounts, hprocessed, -⟩ := next_keeps q
  have hids : q.next.2.ids = q.ids := congrArg (List.map Account.id) haccounts
  have hvalid : q.next.2.Valid := h.valid.call {} (c := .next) trivial
  cases hn : q.next.1 with
  | none =>
    refine ⟨hvalid, hprocessed ▸ h.nodup, fun id hid => ?_⟩
    -- The cursor has passed all accounts.
    have hlen : q.ids.length ≤ q.next.2.cursor := by
      rw [(next_ends hn).1, ids, List.length_map]
      omega
    rw [hids, List.take_of_length_le hlen]
    exact h.mem_ids hid
  | some a =>
    obtain ⟨before, hpassed, -, hopen⟩ := next_passes_ids hn
    -- What is handed out stands behind all that the cursor had passed.
    have hnew : a.id ∉ q.ids.take q.cursor := by
      have hnodup : (q.ids.take q.next.2.cursor).Nodup :=
        h.valid.ids_nodup.sublist (List.take_sublist _ _)
      rw [hpassed] at hnodup
      exact fun hold => (List.nodup_append.1 hnodup).2.2 a.id hold a.id
        (List.mem_append_right _ (List.mem_singleton_self _)) rfl
    refine ⟨hvalid, ?_, ?_⟩
    · show (a.id :: (held ++ q.next.2.processed)).Nodup
      rw [hprocessed, List.nodup_cons, List.mem_append]
      exact ⟨fun hor => hor.elim (fun hheld => hnew (h.passed _ hheld)) hopen, h.nodup⟩
    · rw [hids, hpassed]
      refine List.forall_mem_cons.2 ⟨?_, fun id hid => List.mem_append_left _ (h.passed id hid)⟩
      exact List.mem_append_right _ (List.mem_append_right _ (List.mem_singleton_self _))

/-- One is marked, and so done with. -/
theorem mark (h : q.Holds (id :: held)) (s : QueueSettings) (failure : Option String) :
    (q.call s (.mark id failure)).Holds held ∧
      (q.call s (.mark id failure)).processed = q.processed ++ [id] := by
  have hid : id ∈ q.ids := h.mem_ids List.mem_cons_self
  have hnot : id ∉ q.processed := h.not_processed List.mem_cons_self
  have hplaces := call_keeps_places (s := s) (q := q) (c := .mark id failure) rfl
  have hprocessed : (q.call s (.mark id failure)).processed = q.processed ++ [id] := by
    rw [call_mark, mark_eq hid]
    simp only [settle, addProcessed, if_neg hnot]
  refine ⟨⟨h.valid.call s trivial, ?_, fun m hm => ?_⟩, hprocessed⟩
  · rw [hprocessed, ← List.append_assoc]
    exact (List.perm_append_singleton id _).nodup_iff.2 h.nodup
  · rw [hplaces.ids, hplaces.cursor]
    exact h.passed m (List.mem_cons_of_mem _ hm)

/-- The file of an account is moved. -/
theorem move (h : q.Holds held) (s : QueueSettings) (t : FileTree) (r : FileTree.MoveRefusals) :
    (q.call s (.move t id r)).Holds held ∧
      (q.call s (.move t id r)).processed = q.processed := by
  have hplaces := call_keeps_places (s := s) (q := q) (c := .move t id r) rfl
  have hprocessed : (q.call s (.move t id r)).processed = q.processed := by
    obtain h | ⟨path, h⟩ := move_settles s t q id r <;> rw [h]
  refine ⟨⟨h.valid.call s trivial, hprocessed ▸ h.nodup, fun m hm => ?_⟩, hprocessed⟩
  rw [hplaces.ids, hplaces.cursor]
  exact h.passed m hm

end Holds

end Autoplay.AccountQueue
