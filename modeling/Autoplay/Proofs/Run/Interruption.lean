import Autoplay.Proofs.Run.Conduct
import Autoplay.Proofs.Run.Stopping

/-!
# Commands after a stop

A stop may come at any moment of a run, and from then on every check and every wait says so. What a
cautious transcript tells about the commands after it: there are none, unless the stop came during
the commands of a sequence that follow one another after a single check; then the rest of the
sequence may still be given. The main statement is `Cautious.given_after_stop`.
-/

namespace Autoplay

/-- The commands that were given. -/
def given (t : Transcript) : List Command := (t.map Sigma.fst).filterMap Request.command?

/-- The commands of one part and those of the next. -/
theorem given_append (t u : Transcript) : given (t ++ u) = given t ++ given u := by
  rw [given, List.map_append, List.filterMap_append]
  rfl

/-- What is no command counts for nothing. -/
theorem given_cons {q : Request} (a : q.Answer) (hq : q.command? = none) (t : Transcript) :
    given (⟨q, a⟩ :: t) = given t := by
  rw [given, List.map_cons, List.filterMap_cons_none hq]
  rfl

/-- Readings of the clock are no commands. -/
theorem given_readings (ns : List Nat) : given (readings ns) = [] := by
  rw [given, List.filterMap_eq_nil_iff]
  intro q hq
  rw [readings, List.map_map] at hq
  obtain ⟨n, -, rfl⟩ := List.mem_map.1 hq
  rfl

/-- Where commands were asked for, they were given. -/
theorem given_of_map {t : Transcript} {cs : List Command}
    (h : t.map Sigma.fst = cs.map Request.command) : given t = cs := by
  rw [given, h, List.filterMap_map]
  exact List.filterMap_some

/-- A check or a reading of the clock, which takes no time. -/
def Request.isInstant : Request → Bool
  | .stopRequested => true
  | .clock => true
  | _ => false

/-- A stop comes between two parts of a transcript, while the last request of the first part is
under way, or at the very beginning. It does not come during a check: when it comes after a check
that was passed, the command that follows counts as under way. -/
structure StopComes (before after : Transcript) : Prop where
  /-- What is under way when it comes takes time. -/
  moment : before.getLast?.all (fun x => !x.1.isInstant) = true
  /-- Every check and every wait after it says so. -/
  told : ∀ x ∈ after, x.1.asksStop = true → tellsStop x = true

/-- A stop comes at the same moment when what happened earlier is left out. -/
theorem StopComes.of_append (earlier : Transcript) {before after : Transcript}
    (h : StopComes (earlier ++ before) after) : StopComes before after := by
  refine ⟨?_, h.told⟩
  have hmoment := h.moment
  rw [List.getLast?_append] at hmoment
  cases hlast : before.getLast? with
  | none => rfl
  | some x => rwa [hlast, Option.some_or] at hmoment

/-- Checks and readings of the clock are not all that came before a stop. -/
theorem StopComes.not_instant {before after : Transcript} (h : StopComes before after)
    (hbefore : before ≠ []) (hinstant : ∀ x ∈ before, x.1.isInstant = true) : False := by
  obtain ⟨x, hx⟩ := Option.ne_none_iff_exists'.1 (mt List.getLast?_eq_none_iff.1 hbefore)
  have hmoment := h.moment
  rw [hx, Option.all_some, hinstant x (List.mem_of_getLast? hx)] at hmoment
  exact nomatch hmoment

/-- Of the commands of a sequence, the last ones before a moment are the first ones, and the ones
after it go on with the others. -/
def UnderWay (whole before after : List Command) : Prop :=
  ∃ k, 0 < k ∧ whole.take k <:+ before ∧ after <+: whole.drop k

/-- What happened earlier does not matter. -/
theorem UnderWay.prepend {whole before after : List Command} (h : UnderWay whole before after)
    (earlier : List Command) : UnderWay whole (earlier ++ before) after := by
  obtain ⟨k, hk, hbefore, hafter⟩ := h
  exact ⟨k, hk, hbefore.trans (List.suffix_append _ _), hafter⟩

/-- Two parts of a sequence, the first of them not empty. -/
theorem underWay_of_prefix {whole before after : List Command} (hbefore : before ≠ [])
    (h : before ++ after <+: whole) : UnderWay whole before after := by
  obtain ⟨rest, rfl⟩ := h
  have htake : (before ++ after ++ rest).take before.length = before := by
    rw [List.append_assoc, List.take_left]
  have hdrop : after ++ rest = (before ++ after ++ rest).drop before.length := by
    rw [List.append_assoc, List.drop_left]
  exact ⟨before.length, List.length_pos_iff.2 hbefore, ⟨[], htake⟩, ⟨rest, hdrop⟩⟩

namespace Cautious

variable {sequences : List Command → Prop} {t before after : Transcript}

/-- Where every check says that the run is to stop, no command is given. -/
theorem given_eq_nil (h : Cautious sequences t)
    (htold : ∀ x ∈ t, x.1.asksStop = true → tellsStop x = true) : given t = [] := by
  induction h with
  | nil => rfl
  | other a hq _ ih =>
    rw [given_cons a hq]
    exact ih (List.forall_mem_cons.1 htold).2
  | checked => exact nomatch (List.forall_mem_cons.1 htold).1 rfl

/-- After a stop no command is given, but for the rest of a sequence that is under way. -/
theorem given_after_stop (h : Cautious sequences t) (ht : t = before ++ after)
    (hstop : StopComes before after) : given after = [] ∨
      ∃ whole, sequences whole ∧ UnderWay whole (given before) (given after) := by
  induction h generalizing before with
  | nil =>
    obtain ⟨-, rfl⟩ := List.append_eq_nil_iff.1 ht.symm
    exact .inl rfl
  | @other q a t hq hcautious ih =>
    cases before with
    | nil =>
      subst ht
      exact .inl ((Cautious.other a hq hcautious).given_eq_nil hstop.told)
    | cons x before =>
      obtain ⟨rfl, rfl⟩ := List.cons.inj ht
      rw [given_cons a hq]
      exact ih rfl (StopComes.of_append [⟨q, a⟩] hstop)
  | @checked ns issued t cs whole hissued hcs hwhole hcautious ih =>
    cases before with
    | nil =>
      subst ht
      exact nomatch (List.forall_mem_cons.1 hstop.told).1 rfl
    | cons x before =>
      obtain ⟨rfl, hrest⟩ := List.cons.inj ht
      have hread : ∀ y ∈ readings ns, y.1.isInstant = true := by
        intro y hy
        obtain ⟨n, -, rfl⟩ := List.mem_map.1 hy
        rfl
      rcases List.append_eq_append_iff.1 hrest with ⟨begun, rfl, hsplit⟩ | ⟨more, hmore, -⟩
      · rcases List.append_eq_append_iff.1 hsplit with ⟨later, rfl, rfl⟩ | ⟨left, rfl, rfl⟩
        · -- All the commands were given before the stop came.
          have hlater : StopComes later after :=
            .of_append (⟨.stopRequested, false⟩ :: (readings ns ++ issued))
              (by rwa [List.cons_append, List.append_assoc])
          refine (ih rfl hlater).imp_right fun ⟨sequence, hsequence, hway⟩ =>
            ⟨sequence, hsequence, ?_⟩
          rw [given_cons _ rfl, given_append, given_append, ← List.append_assoc]
          exact hway.prepend _
        · -- Some of them were given before the stop came, and the others after it.
          obtain ⟨first, second, rfl, hfirst, hsecond⟩ :=
            List.map_eq_append_iff.1 (hissued.symm.trans List.map_append)
          have hbegun : begun ≠ [] := by
            rintro rfl
            rw [List.append_nil] at hstop
            exact hstop.not_instant (List.cons_ne_nil _ _) (List.forall_mem_cons.2 ⟨rfl, hread⟩)
          have hnone : given t = [] :=
            hcautious.given_eq_nil (List.forall_mem_append.1 hstop.told).2
          have hbefore : given (⟨.stopRequested, false⟩ :: (readings ns ++ begun)) = first := by
            rw [given_cons _ rfl, given_append, given_readings, given_of_map hfirst.symm]
            rfl
          have hafter : given (left ++ t) = second := by
            rw [given_append, hnone, given_of_map hsecond.symm, List.append_nil]
          have hne : first ≠ [] := by
            rintro rfl
            exact hbegun (List.map_eq_nil_iff.1 hfirst.symm)
          rw [hbefore, hafter]
          rcases hwhole with hlength | hwhole
          · -- A command on its own was the one under way.
            left
            have hle := hcs.length_le
            rw [List.length_append, hlength] at hle
            have hpos := List.length_pos_iff.2 hne
            exact List.length_eq_zero_iff.1 (by omega)
          · exact .inr ⟨whole, hwhole, underWay_of_prefix hne hcs⟩
      · -- The stop would have come during the check or a reading of the clock.
        refine (hstop.not_instant (List.cons_ne_nil _ _) (List.forall_mem_cons.2 ⟨rfl, ?_⟩)).elim
        exact fun y hy => hread y (hmore ▸ List.mem_append_left _ hy)

end Cautious

end Autoplay
