import Autoplay.Proofs.Run.Noting

/-!
# The turns of a repeated group

While a group is repeated, its members take turns: one after the other in the order of the workflow,
and over again in each pass. Between the turns nothing is noted. A pass ends early with a member
that recognises a name, that is stopped, or that breaks off. Main statements: a repetition that is
accepted goes through turns in this way (`passes_goes`, `repeatGroup_goes`), and it is accepted just
when its group has a name and members (`Accepted.play_eq`, `play_of_not_accepted`).
-/

namespace Autoplay

/-! ## Turns -/

/-- A turn of a member of a group that is repeated. -/
structure Turn where
  /-- Position of the member. -/
  index : Nat
  /-- What was asked and answered while it ran. -/
  talk : Transcript
  /-- How it ended. -/
  outcome : Except Breakdown (Except StepError Flow)

namespace Turn

/-- What was asked and answered. -/
def transcript (t : Turn) : Transcript := ⟨.note (.joined t.index), ()⟩ :: t.talk

/-- A turn is a play of its step, which repeats no group itself. -/
def Played (ctx : Context) (t : Turn) : Prop :=
  ∃ s, ctx.workflow.steps[t.index]? = some s ∧ s.action.isRepeat = false ∧
    (s.action.playSingle ctx t.index).run.Goes t.talk t.outcome

/-- A name was recognised. -/
def Matched (t : Turn) : Prop := ∃ name, t.outcome = .ok (.ok (.matched name))

end Turn

/-- Turns one after the other, with other requests around them, all of which have a property. -/
inductive Woven (ctx : Context) (around : Request → Prop) : List Turn → Transcript → Prop where
  /-- Nothing was asked. -/
  | nil : Woven ctx around [] []
  /-- Something was asked that belongs to no turn. -/
  | other {q : Request} (a : q.Answer) {turns : List Turn} {t : Transcript} (hq : around q)
    (h : Woven ctx around turns t) : Woven ctx around turns (⟨q, a⟩ :: t)
  /-- A member took a turn. -/
  | turn {turn : Turn} {turns : List Turn} {t : Transcript} (hplayed : turn.Played ctx)
    (h : Woven ctx around turns t) : Woven ctx around (turn :: turns) (turn.transcript ++ t)

namespace Woven

variable {ctx : Context} {around : Request → Prop} {turns turns' : List Turn} {t u : Transcript}

/-- One after the other. -/
theorem append (ht : Woven ctx around turns t) (hu : Woven ctx around turns' u) :
    Woven ctx around (turns ++ turns') (t ++ u) := by
  induction ht with
  | nil => exact hu
  | other a hq _ ih => exact .other a hq ih
  | turn hplayed _ ih =>
    rw [List.append_assoc]
    exact .turn hplayed ih

/-- No member took a turn. -/
theorem of_around (h : ∀ x ∈ t, around x.1) : Woven ctx around [] t := by
  induction t with
  | nil => exact .nil
  | cons x t ih =>
    obtain ⟨hx, ht⟩ := List.forall_mem_cons.1 h
    exact .other x.2 hx (ih ht)

/-- What is asked after the last turn belongs to none. -/
theorem append_around (ht : Woven ctx around turns t) (hu : ∀ x ∈ u, around x.1) :
    Woven ctx around turns (t ++ u) := by
  have hall := ht.append (of_around hu)
  rwa [List.append_nil] at hall

/-- More may be asked around the turns. -/
theorem mono {around' : Request → Prop} (h : Woven ctx around turns t)
    (haround : ∀ q, around q → around' q) : Woven ctx around' turns t := by
  induction h with
  | nil => exact .nil
  | other a hq _ ih => exact .other a (haround _ hq) ih
  | turn hplayed _ ih => exact .turn hplayed ih

/-- Each turn is a play of its step. -/
theorem played (h : Woven ctx around turns t) : ∀ turn ∈ turns, turn.Played ctx := by
  induction h with
  | nil => exact List.forall_mem_nil _
  | other _ _ _ ih => exact ih
  | turn hplayed _ ih => exact List.forall_mem_cons.2 ⟨hplayed, ih⟩

end Woven

/-! ## The members of a group -/

namespace Workflow

variable {w : Workflow} {group : String} {m : Nat × Step}

/-- The members of a group are its steps that repeat no group themselves. -/
theorem mem_members_iff : m ∈ w.members group ↔
    w.steps[m.1]? = some m.2 ∧ m.2.group = some group ∧ m.2.action.isRepeat = false := by
  constructor
  · intro h
    have hm := (List.mem_filter.1 h).2
    exact ⟨(of_mem_members h).1, (of_mem_members h).2,
      (Bool.not_eq_true' _).mp (Bool.and_eq_true_iff.1 hm).2⟩
  · rintro ⟨hm, hgroup, hsingle⟩
    have hplace : (m.2, m.1) ∈ w.steps.zipIdx := List.mem_zipIdx_iff_getElem?.2 hm
    refine List.mem_filter.2 ⟨List.mem_map.2 ⟨_, hplace, rfl⟩, ?_⟩
    dsimp only
    rw [hgroup, hsingle]
    simp

/-- A member is a step that repeats no group. -/
theorem single_of_mem_members (h : m ∈ w.members group) :
    w.steps[m.1]? = some m.2 ∧ m.2.action.isRepeat = false :=
  (mem_members_iff.1 h).imp_right And.right

/-- The members are in the order of the workflow. -/
theorem members_sorted : ((w.members group).map Prod.fst).Pairwise (· < ·) := by
  have hsub : ((w.members group).map Prod.fst).Sublist (List.range' 0 w.steps.length) := by
    rw [← List.zipIdx_map_snd 0 w.steps]
    refine (List.filter_sublist.map Prod.fst).trans ?_
    rw [List.map_map]
    exact List.Sublist.refl _
  exact (List.pairwise_lt_range' 1).sublist hsub

end Workflow

/-! ## Passes -/

/-- A result of what may fail is its own. -/
theorem goes_of_attempt {α : Type} {p : Play α} {t : Transcript}
    {r : Except Breakdown (Except StepError (Except StepError α))}
    (h : (Play.attempt p).run.Goes t r) :
    ∃ o, p.run.Goes t o ∧ ∀ a, r = .ok (.ok a) → o = .ok a := by
  rcases goes_attempt h with ⟨o, hp, rfl | ⟨-, rfl⟩⟩ | ⟨b, hp, rfl⟩
  · exact ⟨_, hp, fun a ha => congrArg Except.ok (Except.ok.inj (Except.ok.inj ha))⟩
  · exact ⟨_, hp, nofun⟩
  · exact ⟨_, hp, nofun⟩

variable {ctx : Context} {t : Transcript}

/-- The turns of a pass over some members. -/
structure PassTurns (ctx : Context) (members : List (Nat × Step)) (t : Transcript)
    (r : Except Breakdown (Except StepError Bool)) (turns : List Turn) : Prop where
  /-- They make up the pass. -/
  woven : Woven ctx (·.note? = none) turns t
  /-- The members take them in their order. -/
  order : turns.map Turn.index <+: members.map Prod.fst
  /-- If no name was recognised, each one took its turn. -/
  whole : r = .ok (.ok false) → turns.map Turn.index = members.map Prod.fst
  /-- If one was, then in the last turn. -/
  matched : r = .ok (.ok true) → ∃ turn, turns.getLast? = some turn ∧ turn.Matched

/-- A pass over members goes through their turns. -/
theorem pass_goes {members : List (Nat × Step)}
    (hmembers : ∀ m ∈ members, ctx.workflow.steps[m.1]? = some m.2 ∧ m.2.action.isRepeat = false)
    {r : Except Breakdown (Except StepError Bool)}
    (h : (RepeatGroup.pass ctx members).run.Goes t r) :
    ∃ turns, PassTurns ctx members t r turns := by
  induction members generalizing t with
  | nil =>
    obtain ⟨rfl, rfl⟩ := h
    exact ⟨[], .nil, List.prefix_rfl, fun _ => rfl, nofun⟩
  | cons m rest ih =>
    obtain ⟨⟨hm, hsingle⟩, hrest⟩ := List.forall_mem_cons.1 hmembers
    obtain ⟨_, u, rfl, h⟩ := h
    -- The member's turn with the rest of the pass.
    have hturn {talk : Transcript} {o : Except Breakdown (Except StepError Flow)}
        (hgoes : (m.2.action.playSingle ctx m.1).run.Goes talk o) {turns : List Turn}
        {t' : Transcript} (hwoven : Woven ctx (·.note? = none) turns t') :
        Woven ctx (·.note? = none) (⟨m.1, talk, o⟩ :: turns)
          (⟨.note (.joined m.1), ()⟩ :: (talk ++ t')) := by
      have hplayed : Turn.Played ctx ⟨m.1, talk, o⟩ := ⟨m.2, hm, hsingle, hgoes⟩
      exact .turn hplayed hwoven
    rcases (Dialogue.goes_bind_run (x := Play.attempt (m.2.action.playSingle ctx m.1))).1 h with
      ⟨o, t₁, t₂, rfl, h₁, h₂⟩ | ⟨e, rfl, h₁⟩ | ⟨b, rfl, h₁⟩
    · obtain ⟨o', hgoes, ho⟩ := goes_of_attempt h₁
      obtain rfl := ho o rfl
      split at h₂
      next name =>
        -- A name was recognised, which ends the pass.
        obtain ⟨rfl, rfl⟩ := h₂
        exact ⟨_, hturn hgoes .nil, by simp, nofun, fun _ => ⟨_, rfl, name, rfl⟩⟩
      next hnone =>
        obtain ⟨turns, hturns⟩ := ih hrest h₂
        refine ⟨_, hturn hgoes hturns.woven, ?_, fun hr => ?_, fun hr => ?_⟩
        · exact (List.prefix_cons_inj _).2 hturns.order
        · exact congrArg (m.1 :: ·) (hturns.whole hr)
        · obtain ⟨turn, hlast, hmatched⟩ := hturns.matched hr
          exact ⟨turn, by rw [List.getLast?_cons, hlast, Option.getD_some], hmatched⟩
    all_goals
      obtain ⟨o', hgoes, -⟩ := goes_of_attempt h₁
      have hwoven := hturn hgoes .nil
      rw [List.append_nil] at hwoven
      exact ⟨_, hwoven, by simp, nofun, nofun⟩

/-! ## Repetitions -/

/-- The turns of a number of passes, or fewer, over the members of a group. -/
structure RepetitionTurns (ctx : Context) (members : List (Nat × Step)) (passes : Nat)
    (t : Transcript) (r : Except Breakdown (Except StepError Unit)) (turns : List Turn) :
    Prop where
  /-- They make up the repetition. -/
  woven : Woven ctx (·.note? = none) turns t
  /-- The members take them in their order, over and over again. -/
  order : turns.map Turn.index <+: (List.replicate passes (members.map Prod.fst)).flatten
  /-- The repetition ends after whole passes, or a name was recognised in the last turn. -/
  ended : r = .ok (.ok ()) →
    (∃ k, turns.map Turn.index = (List.replicate k (members.map Prod.fst)).flatten) ∨
      ∃ turn, turns.getLast? = some turn ∧ turn.Matched

/-- Nothing that is noted happens before the first turn. -/
theorem repetitionTurns_none {members : List (Nat × Step)} {n : Nat}
    {r : Except Breakdown (Except StepError Unit)} (ht : ∀ x ∈ t, x.1.note? = none)
    (hr : r ≠ .ok (.ok ())) : RepetitionTurns ctx members n t r [] :=
  ⟨.of_around ht, List.nil_prefix, fun h => absurd h hr⟩

section

variable {members : List (Nat × Step)} {n : Nat} {before u after : Transcript}
  {o : Except Breakdown (Except StepError Bool)} {r : Except Breakdown (Except StepError Unit)}
  {turns later : List Turn}

/-- A pass that is the last one. -/
theorem PassTurns.last (h : PassTurns ctx members u o turns)
    (hbefore : ∀ x ∈ before, x.1.note? = none) (hafter : ∀ x ∈ after, x.1.note? = none)
    (hr : r = .ok (.ok ()) → ∃ hit, o = .ok (.ok hit)) :
    RepetitionTurns ctx members (n + 1) (before ++ (u ++ after)) r turns where
  woven := (Woven.of_around hbefore).append (h.woven.append_around hafter)
  order := h.order.trans (List.prefix_append _ _)
  ended := by
    intro hend
    obtain ⟨hit, rfl⟩ := hr hend
    cases hit with
    | true => exact .inr (h.matched rfl)
    | false => exact .inl ⟨1, by simpa using h.whole rfl⟩

/-- A pass that others follow. -/
theorem PassTurns.prepend (h : PassTurns ctx members u (.ok (.ok false)) turns)
    (hbefore : ∀ x ∈ before, x.1.note? = none) (hafter : ∀ x ∈ after, x.1.note? = none)
    (hlater : RepetitionTurns ctx members n t r later) :
    RepetitionTurns ctx members (n + 1) (before ++ (u ++ (after ++ t))) r (turns ++ later) where
  woven := (Woven.of_around hbefore).append
    (h.woven.append ((Woven.of_around hafter).append hlater.woven))
  order := by
    rw [List.map_append, h.whole rfl, List.replicate_succ, List.flatten_cons]
    exact (List.prefix_append_right_inj _).2 hlater.order
  ended := by
    intro hend
    rcases hlater.ended hend with ⟨k, hk⟩ | ⟨turn, hlast, hmatched⟩
    · refine .inl ⟨k + 1, ?_⟩
      rw [List.map_append, h.whole rfl, hk, List.replicate_succ, List.flatten_cons]
    · exact .inr ⟨turn, by rw [List.getLast?_append, hlast, Option.some_or], hmatched⟩

end

/-- Passes over members go through their turns. -/
theorem passes_goes (s : RepeatGroup) {members : List (Nat × Step)}
    (hmembers : ∀ m ∈ members, ctx.workflow.steps[m.1]? = some m.2 ∧ m.2.action.isRepeat = false)
    (n : Nat) {r : Except Breakdown (Except StepError Unit)}
    (h : (s.passes ctx members n).run.Goes t r) :
    ∃ turns, RepetitionTurns ctx members n t r turns := by
  have hnil : ∀ x ∈ ([] : Transcript), x.1.note? = none := List.forall_mem_nil _
  induction n generalizing t with
  | zero =>
    obtain ⟨rfl, rfl⟩ := h
    exact ⟨[], .nil, List.prefix_rfl, fun _ => .inl ⟨0, rfl⟩⟩
  | succ n ih =>
    unfold RepeatGroup.passes at h
    rcases Dialogue.goes_bind_run.1 h with
      ⟨_, t₁, t₂, rfl, hcheck, hpasses⟩ | ⟨e, rfl, hcheck⟩ | ⟨b, rfl, hcheck⟩
    · have hbefore := Notes.silent allowsRoutine_notes.checkpoint.inPlay hcheck
      rcases Dialogue.goes_bind_run.1 hpasses with
        ⟨hit, t₃, t₄, rfl, hpass, hrest⟩ | ⟨e, rfl, hpass⟩ | ⟨b, rfl, hpass⟩
      · obtain ⟨turns, hturns⟩ := pass_goes hmembers hpass
        cases hit with
        | true =>
          obtain ⟨rfl, rfl⟩ := hrest
          exact ⟨turns, hturns.last hbefore hnil fun _ => ⟨true, rfl⟩⟩
        | false =>
          -- After a whole pass comes the look for the stop template.
          rcases Dialogue.goes_bind_run.1 hrest with
            ⟨seen, t₅, t₆, rfl, hseen, hagain⟩ | ⟨e, rfl, hseen⟩ | ⟨b, rfl, hseen⟩
          · have hafter := Notes.silent (allowsRoutine_notes.stopSeen s ctx) hseen
            cases seen with
            | true =>
              obtain ⟨rfl, rfl⟩ := hagain
              rw [List.append_nil]
              exact ⟨turns, hturns.last hbefore hafter fun _ => ⟨false, rfl⟩⟩
            | false =>
              obtain ⟨later, hlater⟩ := ih hagain
              exact ⟨turns ++ later, hturns.prepend hbefore hafter hlater⟩
          all_goals
            have hafter := Notes.silent (allowsRoutine_notes.stopSeen s ctx) hseen
            exact ⟨turns, hturns.last hbefore hafter (by simp)⟩
      all_goals
        obtain ⟨turns, hturns⟩ := pass_goes hmembers hpass
        rw [← List.append_nil t₂]
        exact ⟨turns, hturns.last hbefore hnil (by simp)⟩
    all_goals
      have hbefore := Notes.silent allowsRoutine_notes.checkpoint.inPlay hcheck
      exact ⟨[], repetitionTurns_none hbefore (by simp)⟩

/-! ## The repetition of a group -/

namespace RepeatGroup

/-- A repetition is accepted: its group has a name and members. -/
def Accepted (w : Workflow) (s : RepeatGroup) (group : String) : Prop :=
  s.group = some group ∧ group ≠ "" ∧ w.members group ≠ []

/-- A repetition that is accepted plays passes over the members of its group. -/
theorem Accepted.play_eq {s : RepeatGroup} {group : String} (h : s.Accepted ctx.workflow group) :
    s.play ctx = s.passes ctx (ctx.workflow.members group) s.maxIterations.toNat >>=
      fun _ => pure .next := by
  obtain ⟨hgroup, hname, hmembers⟩ := h
  unfold play
  rw [hgroup, Option.getD_some]
  dsimp only
  rw [if_neg (by simpa using hname), if_neg (by simpa using hmembers)]

/-- It fails only by a stop. -/
theorem Accepted.onlyStops {s : RepeatGroup} {group : String} (h : s.Accepted ctx.workflow group) :
    OnlyStops (s.play ctx) := by
  rw [h.play_eq]
  exact (onlyStops_passes s ctx _ _).bind fun _ => onlyStops_pure _

/-- A repetition that is not accepted makes no sense. -/
theorem play_of_not_accepted {s : RepeatGroup} (h : ∀ group, ¬ s.Accepted ctx.workflow group) :
    ∃ reason, s.play ctx = throw (.misconfigured reason) := by
  unfold play
  cases hs : s.group with
  | none => exact ⟨_, rfl⟩
  | some group =>
    rw [Option.getD_some]
    dsimp only
    by_cases hname : group = ""
    · exact ⟨_, by rw [hname]; rfl⟩
    · have hmembers : ctx.workflow.members group = [] :=
        Classical.not_not.1 fun hmembers => h group ⟨hs, hname, hmembers⟩
      rw [if_neg (by simpa using hname), hmembers]
      exact ⟨_, rfl⟩

end RepeatGroup

/-- The repetition of a group makes no sense at once, or goes through the turns of its members. -/
theorem repeatGroup_goes (s : RepeatGroup) {r : Except Breakdown (Except StepError Flow)}
    (h : (s.play ctx).run.Goes t r) :
    (t = [] ∧ ∃ reason, r = .ok (.error (.misconfigured reason))) ∨
      ∃ group o turns, s.Accepted ctx.workflow group ∧
        RepetitionTurns ctx (ctx.workflow.members group) s.maxIterations.toNat t o turns ∧
        r = o.map (·.map fun _ => .next) := by
  by_cases haccepted : ∃ group, s.Accepted ctx.workflow group
  · obtain ⟨group, haccepted⟩ := haccepted
    refine .inr ?_
    rw [haccepted.play_eq] at h
    have hmembers : ∀ m ∈ ctx.workflow.members group,
        ctx.workflow.steps[m.1]? = some m.2 ∧ m.2.action.isRepeat = false :=
      fun _ => Workflow.single_of_mem_members
    rcases Dialogue.goes_bind_run.1 h with
      ⟨_, t₁, t₂, rfl, hpasses, rfl, rfl⟩ | ⟨e, rfl, hpasses⟩ | ⟨b, rfl, hpasses⟩
    case' inl => rw [List.append_nil]
    all_goals
      obtain ⟨turns, hturns⟩ := passes_goes s hmembers _ hpasses
      exact ⟨group, _, turns, haccepted, hturns, rfl⟩
  · obtain ⟨reason, hplay⟩ := RepeatGroup.play_of_not_accepted (fun group h => haccepted ⟨group, h⟩)
    rw [hplay] at h
    obtain ⟨rfl, rfl⟩ := h
    exact .inl ⟨rfl, reason, rfl⟩

/-- An action that is not the repetition of a group is played as a member is. -/
theorem Action.play_eq_playSingle {a : Action} (h : a.isRepeat = false) (ctx : Context)
    (index : Nat) : a.play ctx index = a.playSingle ctx index := by
  cases a with
  | repeatGroup s => exact nomatch h
  | _ => rfl

/-- What is no note marks no step. -/
theorem Request.isMark_eq_false {q : Request} (h : ∀ n, q.note? = some n →
    (Request.note n).isMark = false) : q.isMark = false := by
  cases q with
  | note n => exact h n rfl
  | _ => rfl

/-- The members that begin while a step runs take turns. -/
theorem Leg.Played.exists_turns {l : Leg} (h : l.Played ctx) :
    ∃ turns, Woven ctx (·.isMark = false) turns l.talk := by
  obtain ⟨s, hs, hgoes⟩ := h.goes
  cases ha : s.action with
  | repeatGroup g =>
    rw [ha] at hgoes
    rcases repeatGroup_goes g hgoes with ⟨hnil, -⟩ | ⟨group, o, turns, -, hturns, -⟩
    · exact ⟨[], hnil ▸ .nil⟩
    · exact ⟨turns, hturns.woven.mono fun q hq => q.isMark_eq_false fun n hn => nomatch hq ▸ hn⟩
  | _ =>
    -- No other action marks a step.
    rw [Action.play_eq_playSingle (by rw [ha]; rfl)] at hgoes
    have hnotes : Notes (fun n => (Request.note n).isMark = false)
        (s.action.playSingle ctx l.index).run :=
      notes_playSingle ctx l.index s.action (fun _ _ _ _ => rfl) fun _ _ _ => rfl
    exact ⟨[], .of_around fun x hx => x.1.isMark_eq_false (hnotes.of_goes hgoes x hx)⟩

end Autoplay
