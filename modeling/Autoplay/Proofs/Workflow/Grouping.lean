import Autoplay.Proofs.Workflow.Validation

/-!
# Steps that only run as members

A step that is passed over because some step repeats its group is a member of that group, and the
repetition plays it, if the group has a name. A step of a group with an empty name that some step
repeats is passed over as well, but the repetition of such a group makes no sense, so that the step
never begins. The main statement is `played_as_member_iff`.
-/

namespace Autoplay

namespace Workflow

variable {w : Workflow} {i : Nat} {s : Step} {group : String}

/-- The steps that begin on their own are not passed over. -/
theorem InOrder.own {n : Nat} {legs : List Leg} (h : w.InOrder n legs) :
    ∀ l ∈ legs, ∃ s, w.steps[l.index]? = some s ∧ ¬ w.Looped s := by
  induction legs generalizing n with
  | nil => exact List.forall_mem_nil _
  | cons l rest ih => exact List.forall_mem_cons.2 ⟨h.1.own, ih h.2⟩

/-- In a workflow, the repetition of a group makes sense, and what it does is to play the members of
the group again and again. -/
structure Repeats (w : Workflow) (g : RepeatGroup) (group : String) : Prop where
  /-- It repeats the group. -/
  repeated : g.group = some group
  /-- It never fails because it makes no sense. -/
  sensible : ∀ settings rounds, Sensible (g.play ⟨w, settings, rounds⟩)
  /-- It plays the members of the group. -/
  plays : ∀ settings rounds, let ctx : Context := ⟨w, settings, rounds⟩
    g.play ctx = g.passes ctx (w.members group) g.maxIterations.toNat >>= fun _ => pure .next

/-- This is so just when it is accepted. -/
theorem repeats_iff {g : RepeatGroup} : w.Repeats g group ↔ g.Accepted w group := by
  constructor
  · intro h
    by_contra hrejected
    have hnone (group' : String) : ¬ g.Accepted w group' := by
      intro haccepted
      obtain rfl : group = group' := Option.some.inj (h.repeated.symm.trans haccepted.1)
      exact hrejected haccepted
    -- A repetition that is not accepted makes no sense, and says so at once.
    obtain ⟨reason, hplay⟩ :
        ∃ reason, g.play ⟨w, {}, 0⟩ = throw (.misconfigured reason) :=
      RepeatGroup.play_of_not_accepted hnone
    have hsensible := h.sensible {} 0
    rw [hplay] at hsensible
    exact hsensible [] _ ⟨rfl, rfl⟩ reason rfl
  · intro haccepted
    refine ⟨haccepted.1, fun settings rounds => ?_, fun settings rounds => haccepted.play_eq⟩
    exact makes_sense ⟨w, settings, rounds⟩ (flaws_repeatGroup_iff.2 ⟨group, haccepted⟩) 0

/-- A step that is passed over is a member of a group with a repetition, which is accepted if the
group has a name. -/
theorem repeats_of_isSkipped (hs : w.steps[i]? = some s) (hskipped : w.isSkipped s = true)
    (hname : s.group ≠ some "") : ∃ (j : Nat) (r : Step) (g : RepeatGroup) (group : String),
      w.steps[j]? = some r ∧ r.action = .repeatGroup g ∧ w.Repeats g group ∧
      (i, s) ∈ w.members group := by
  obtain ⟨hsingle, group, hgroup, r, hr, g, hg, hrepeated⟩ := isSkipped_iff.1 hskipped
  obtain ⟨j, hj⟩ := List.mem_iff_getElem?.1 hr
  have hmember : (i, s) ∈ w.members group := mem_members_iff.2 ⟨hs, hgroup, hsingle⟩
  have haccepted : g.Accepted w group :=
    ⟨hrepeated, fun h => hname (h ▸ hgroup), List.ne_nil_of_mem hmember⟩
  exact ⟨j, r, g, group, hj, hg, repeats_iff.2 haccepted, hmember⟩

/-- A step of a group without a name begins as a member in no run. -/
theorem not_joined_of_unnamed {ctx : Context} (hs : ctx.workflow.steps[i]? = some s)
    (hunnamed : s.group = some "") {l : Leg} (hl : l.Played ctx) :
    ∀ x ∈ l.talk, x.1 ≠ .note (.joined i) := by
  intro x hx hjoined
  obtain ⟨j, hj, r, g, group, m, hr, hg, hrepeated, hm, hgroup⟩ :=
    hl.joins x hx (by rw [hjoined]; rfl)
  obtain rfl : i = j := by
    rw [hjoined] at hj
    cases hj
    rfl
  obtain rfl : s = m := Option.some.inj (hs.symm.trans hm)
  obtain rfl : "" = group := Option.some.inj (hunnamed.symm.trans hgroup)
  -- The repetition of its group makes no sense, so that nothing happens in it.
  obtain ⟨r', hr', hgoes⟩ := hl.goes
  obtain rfl : r = r' := Option.some.inj (hr.symm.trans hr')
  have hnone (group' : String) : ¬ g.Accepted ctx.workflow group' := by
    rintro ⟨hgroup', hname, -⟩
    exact hname (Option.some.inj (hgroup'.symm.trans hrepeated))
  obtain ⟨reason, hplay⟩ := RepeatGroup.play_of_not_accepted hnone
  rw [hg] at hgoes
  have hsilent : (g.play ctx).run.Goes l.talk l.outcome := hgoes
  rw [hplay] at hsilent
  rw [hsilent.1] at hx
  exact nomatch hx

end Workflow

/-- A step that is passed over is a member of a group that a step of the workflow repeats, in a way
that makes sense and plays the members of the group, just when the name of its group is not empty.
If the name is empty, the step never begins in any run of the workflow. -/
theorem played_as_member_iff (w : Workflow) {i : Nat} {s : Step} (hs : w.steps[i]? = some s)
    (hskipped : w.isSkipped s = true) :
    ((∃ (j : Nat) (r : Step) (g : RepeatGroup) (group : String), w.steps[j]? = some r ∧
      r.action = .repeatGroup g ∧ w.Repeats g group ∧ (i, s) ∈ w.members group) ↔
        s.group ≠ some "") ∧
    (s.group = some "" → ∀ (settings : Settings) (rounds : Nat) (σ : Type)
      (answer : (q : Request) → σ → q.Answer × σ) (around : σ),
      let ctx : Context := ⟨w, settings, rounds⟩
      ∀ x ∈ ctx.play.transcript answer around,
        x.1 ≠ .note (.began i) ∧ x.1 ≠ .note (.joined i)) := by
  refine ⟨⟨?_, Workflow.repeats_of_isSkipped hs hskipped⟩, ?_⟩
  · rintro ⟨j, r, g, group, -, -, hrepeats, hmember⟩ hunnamed
    have hgroup := (Workflow.of_mem_members hmember).2
    exact (Workflow.repeats_iff.1 hrepeats).2.1 (Option.some.inj (hgroup.symm.trans hunnamed))
  · intro hunnamed settings rounds σ answer around ctx x hx
    obtain ⟨opening, legs, hjourney⟩ :=
      playFrom_journey ctx ctx.rounds 0 0 (Dialogue.goes_transcript answer ctx.play around)
    constructor
    · -- A step that begins on its own is not passed over.
      intro hbegan
      have hi : i ∈ begun (ctx.play.transcript answer around) :=
        List.mem_filterMap.2 ⟨x, hx, by rw [hbegan]⟩
      rw [hjourney.begun_eq] at hi
      obtain ⟨l, hl, rfl⟩ := List.mem_map.1 hi
      obtain ⟨s', hs', hown⟩ := hjourney.order.own l hl
      obtain rfl : s = s' := Option.some.inj (hs.symm.trans hs')
      exact hown (Workflow.isSkipped_iff.1 hskipped)
    · intro hjoined
      rw [hjourney.transcript] at hx
      rcases List.mem_append.1 hx with hx | hx
      · rw [hjourney.opening x hx] at hjoined
        exact nomatch hjoined
      obtain ⟨l, hl, hx⟩ := List.mem_flatMap.1 hx
      have hplayed := hjourney.played l hl
      rcases List.mem_cons.1 hx with rfl | hx
      · exact nomatch hjoined
      rcases List.mem_append.1 hx with hx | hx
      · exact Workflow.not_joined_of_unnamed hs hunnamed hplayed x hx hjoined
      · rw [hplayed.checks x hx] at hjoined
        exact nomatch hjoined

/-- A tap that belongs to a group, and the repetition of the group. -/
def tapInGroup (group : String) : Workflow where
  steps := [
    { action := .click { x := 1, y := 2 }, group := some group },
    { action := .repeatGroup { group := some group, maxIterations := 1 } }]

/-- In a group with a name the tap is a member that the repetition plays. -/
theorem tap_in_named_group : ∃ s, (tapInGroup "taps").steps[0]? = some s ∧
    (tapInGroup "taps").isSkipped s = true ∧
    ∃ (j : Nat) (r : Step) (g : RepeatGroup) (group : String),
      (tapInGroup "taps").steps[j]? = some r ∧ r.action = .repeatGroup g ∧
      (tapInGroup "taps").Repeats g group ∧ (0, s) ∈ (tapInGroup "taps").members group := by
  have hskipped : (tapInGroup "taps").isSkipped
      { action := .click { x := 1, y := 2 }, group := some "taps" } = true := by decide
  exact ⟨_, rfl, hskipped, (played_as_member_iff (tapInGroup "taps") rfl hskipped).1.2 (by simp)⟩

/-- In a group without a name the tap is passed over, although no repetition is accepted. -/
theorem tap_in_unnamed_group : ∃ s, (tapInGroup "").steps[0]? = some s ∧
    (tapInGroup "").isSkipped s = true ∧
    ∀ (j : Nat) (r : Step) (g : RepeatGroup), (tapInGroup "").steps[j]? = some r →
      r.action = .repeatGroup g → ∀ settings rounds, ∃ reason,
        r.action.play ⟨tapInGroup "", settings, rounds⟩ j = throw (.misconfigured reason) := by
  refine ⟨_, rfl, by decide, fun j r g hr hg settings rounds => ?_⟩
  match j, hr with
  | 0, hr =>
    cases Option.some.inj hr
    exact nomatch hg
  | 1, hr =>
    cases Option.some.inj hr
    exact ⟨_, rfl⟩

end Autoplay
