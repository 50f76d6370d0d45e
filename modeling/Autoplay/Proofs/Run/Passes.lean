import Autoplay.Proofs.Run.Lasting
import Autoplay.Proofs.Run.Position
import Autoplay.Proofs.Run.Repetition
import Autoplay.Proofs.Run.Unstopped

/-!
# The passes of a repeated group

A repetition that is never told to stop goes through passes. In a pass the members take their turns
in the order of the workflow, whatever comes of them, and then the stop template is looked for; but
a name that is recognised ends the pass and the repetition at once. Otherwise the repetition ends
with the first pass after which the look at the stop template says so, or with the last pass that
there may be. The main statement is `repeatGroup_passes`.
-/

namespace Autoplay

variable {ctx : Context} {t : Transcript}

/-! ## The names that a turn adds -/

/-- The names that were recognised. -/
def recognised (t : Transcript) : List String := t.filterMap fun x => x.1.note?.bind Note.name?

/-- One after the other. -/
theorem recognised_append (t u : Transcript) : recognised (t ++ u) = recognised t ++ recognised u :=
  List.filterMap_append

/-- The name that a turn ends with. -/
def endingName : Except Breakdown (Except StepError Flow) → Option String
  | .ok (.ok (.matched name)) => some name
  | _ => none

/-- There is none without a name that was recognised. -/
theorem endingName_eq_none {o : Except StepError Flow} (h : ∀ name, o ≠ .ok (.matched name)) :
    endingName (.ok o) = none := by
  match o, h with
  | .ok (.matched name), h => exact absurd rfl (h name)
  | .ok .next, _ | .ok (.goto _), _ | .error _, _ => rfl

/-- A step recognises the name that it ends with, and no other one. -/
def Recognises (p : Play Flow) : Prop :=
  ∀ t r, p.run.Goes t r → recognised t = (endingName r).toList

/-- Where nothing is noted but what is no name, none is recognised. -/
theorem recognised_eq_nil {α : Type} {d : Talk α} (hd : Notes (fun n => n.name? = none) d)
    {r : Except Breakdown α} (h : d.Goes t r) : recognised t = [] := by
  refine List.filterMap_eq_nil_iff.2 fun x hx => ?_
  cases hn : x.1.note? with
  | none => rfl
  | some n => exact hd.of_goes h x hx n hn

/-- A part that recognises no name, and then the rest. -/
theorem Recognises.after {α : Type} {x : Play α} {f : α → Play Flow}
    (hx : Notes (fun n => n.name? = none) x.run) (hf : ∀ a, Recognises (f a)) :
    Recognises (x >>= f) := by
  intro t r h
  rcases Dialogue.goes_bind_run.1 h with ⟨a, t₁, t₂, rfl, h₁, h₂⟩ | ⟨e, rfl, h₁⟩ | ⟨b, rfl, h₁⟩
  · rw [recognised_append, recognised_eq_nil hx h₁, List.nil_append]
    exact hf a t₂ r h₂
  · exact recognised_eq_nil hx h₁
  · exact recognised_eq_nil hx h₁

/-- A look at what was drawn. -/
theorem recognises_gachaCheck (s : GachaCheck) (ctx : Context) : Recognises (s.play ctx) := by
  have hroutine : AllowsRoutine fun q => ∀ n, q.note? = some n → n.name? = none :=
    allowsRoutine_notes
  have hnext : Recognises (pure .next) := by
    rintro t r ⟨rfl, rfl⟩
    rfl
  have hmatched (name : String) : Recognises (do
      Talk.note (.matched name)
      pure (.matched name)) := by
    rintro t r ⟨_, rest, rfl, rfl, rfl⟩
    rfl
  unfold GachaCheck.play
  dsimp only
  split
  · rintro t r ⟨rfl, rfl⟩
    rfl
  refine .after hroutine.capture.attempt fun shot => ?_
  cases shot with
  | error e => exact hnext
  | ok screen =>
    refine .after (hroutine.readText _ _).play fun text => ?_
    cases text with
    | none => exact hnext
    | some text =>
      -- The name is noted last, after the export if there is one.
      dsimp only
      split
      · exact hnext
      split
      · exact .after (notes_exportAccount _ _ _).attempt fun _ => hmatched _
      · exact hmatched _

/-- An action that is not the repetition of a group. -/
theorem recognises_playSingle (index : Nat) {a : Action} (ha : a.isRepeat = false) :
    Recognises (a.playSingle ctx index) := by
  by_cases hgacha : ∃ s, a = .gachaCheck s
  · obtain ⟨s, rfl⟩ := hgacha
    exact recognises_gachaCheck s ctx
  · intro t r h
    have hnotes : Notes (fun n => n.name? = none) (a.playSingle ctx index).run :=
      notes_playSingle ctx index a (fun _ _ _ _ => rfl) fun s hs => absurd ⟨s, hs⟩ hgacha
    rw [recognised_eq_nil hnotes h]
    match r, h with
    | .ok (.ok (.matched name)), h =>
      -- Only a look at what was drawn ends so.
      rw [← Action.play_eq_playSingle ha] at h
      exact absurd (action_ends ctx index a t _ h) hgacha
    | .ok (.ok .next), _ | .ok (.ok (.goto _)), _ | .ok (.error _), _ | .error _, _ => rfl

/-! ## The turns of a pass -/

/-- A turn changes nothing: it ended with a step that is to follow, or it failed, but not by a
stop. -/
def Turn.Quiet (turn : Turn) : Prop :=
  ∃ r, turn.outcome = .ok r ∧ r ≠ .error .aborted ∧ endingName turn.outcome = none

/-- A turn is one of a look at what was drawn. -/
def Turn.ChecksGacha (ctx : Context) (turn : Turn) : Prop :=
  ∃ step check, ctx.workflow.steps[turn.index]? = some step ∧ step.action = .gachaCheck check

/-- Only such a turn ends with a name. -/
theorem Turn.Played.checksGacha {turn : Turn} (h : turn.Played ctx) {name : String}
    (hmatched : turn.outcome = .ok (.ok (.matched name))) : turn.ChecksGacha ctx := by
  obtain ⟨step, hstep, hsingle, hgoes⟩ := h
  rw [hmatched, ← Action.play_eq_playSingle hsingle] at hgoes
  obtain ⟨check, hcheck⟩ := action_ends ctx turn.index step.action turn.talk _ hgoes
  exact ⟨step, check, hstep, hcheck⟩

/-- The turns of members, one after the other, by the name that ended them, if any, or the way in
which they broke off. -/
inductive Round (ctx : Context) :
    List (Nat × Step) → List Turn → Except Breakdown (Option String) → Prop where
  /-- No member is left. -/
  | whole : Round ctx [] [] (.ok none)
  /-- A member takes a turn that changes nothing, and the others follow. -/
  | quiet {m : Nat × Step} {rest : List (Nat × Step)} {turn : Turn} {turns : List Turn}
    {o : Except Breakdown (Option String)} (hplayed : turn.Played ctx) (hindex : turn.index = m.1)
    (hquiet : turn.Quiet) (h : Round ctx rest turns o) : Round ctx (m :: rest) (turn :: turns) o
  /-- A look at what was drawn recognises a name, and no other member follows. -/
  | matched {m : Nat × Step} {turn : Turn} {name : String} (hplayed : turn.Played ctx)
    (hindex : turn.index = m.1) (hname : turn.outcome = .ok (.ok (.matched name)))
    (hgacha : turn.ChecksGacha ctx) (rest : List (Nat × Step)) :
    Round ctx (m :: rest) [turn] (.ok (some name))
  /-- A member breaks off. -/
  | broken {m : Nat × Step} {turn : Turn} {b : Breakdown} (hplayed : turn.Played ctx)
    (hindex : turn.index = m.1) (hbroken : turn.outcome = .error b) (rest : List (Nat × Step)) :
    Round ctx (m :: rest) [turn] (.error b)

/-- The members of a pass take their turns. -/
theorem pass_round {members : List (Nat × Step)}
    (hmembers : ∀ m ∈ members, ctx.workflow.steps[m.1]? = some m.2 ∧ m.2.action.isRepeat = false)
    {r : Except Breakdown (Except StepError Bool)} (ht : Unstopped t)
    (h : (RepeatGroup.pass ctx members).run.Goes t r) :
    ∃ turns o, t = turns.flatMap Turn.transcript ∧ Round ctx members turns o ∧
      r = o.map fun name => .ok name.isSome := by
  induction members generalizing t with
  | nil =>
    obtain ⟨rfl, rfl⟩ := h
    exact ⟨[], .ok none, rfl, .whole, rfl⟩
  | cons m rest ih =>
    obtain ⟨⟨hm, hsingle⟩, hrest⟩ := List.forall_mem_cons.1 hmembers
    obtain ⟨_, u, rfl, h₁⟩ := goes_ask h
    have hu : Unstopped u := (List.forall_mem_cons.1 ht).2
    have horderly : OrderlyAs (fun _ => True) (fun _ => True) .aborted
        (m.2.action.playSingle ctx m.1) :=
      orderly_playSingle ctx (fun _ => trivial) m.1 m.2.action
    rcases hu.play_attempt horderly h₁ with ⟨o, talk, u', hu', rfl, hgoing, hgoes, h₂⟩ |
      ⟨b, rfl, hgoes⟩
    · let turn : Turn := ⟨m.1, talk, .ok o⟩
      have hplayed : turn.Played ctx := ⟨m.2, hm, hsingle, hgoes⟩
      split at h₂
      next name =>
        -- A name was recognised, which ends the pass.
        obtain ⟨rfl, rfl⟩ := h₂
        exact ⟨[turn], _, by simp [turn, Turn.transcript],
          .matched hplayed rfl rfl (hplayed.checksGacha rfl) rest, rfl⟩
      next hnone =>
        -- Whatever else came of the member, the others follow.
        have hquiet : turn.Quiet := ⟨o, rfl, hgoing, endingName_eq_none hnone⟩
        obtain ⟨turns, o', rfl, hround, rfl⟩ := ih hrest hu' h₂
        exact ⟨turn :: turns, o', rfl, .quiet hplayed rfl hquiet hround, rfl⟩
    · let turn : Turn := ⟨m.1, u, .error b⟩
      have hplayed : turn.Played ctx := ⟨m.2, hm, hsingle, hgoes⟩
      exact ⟨[turn], _, by simp [turn, Turn.transcript], .broken hplayed rfl rfl rest, rfl⟩

section

variable {members : List (Nat × Step)} {turns : List Turn} {o : Except Breakdown (Option String)}

/-- The first members take their turns, in their order. -/
theorem Round.order_prefix (h : Round ctx members turns o) :
    turns.map Turn.index <+: members.map Prod.fst := by
  induction h with
  | whole => exact List.prefix_rfl
  | quiet hplayed hindex hquiet h ih =>
    rw [List.map_cons, List.map_cons, hindex]
    exact (List.prefix_cons_inj _).2 ih
  | matched hplayed hindex | broken hplayed hindex =>
    rw [List.map_singleton, List.map_cons, hindex]
    exact (List.prefix_cons_inj _).2 List.nil_prefix

/-- Without a name they all do. -/
theorem Round.order_eq (h : Round ctx members turns o) (ho : o = .ok none) :
    turns.map Turn.index = members.map Prod.fst := by
  induction h with
  | whole => rfl
  | quiet hplayed hindex hquiet h ih => rw [List.map_cons, List.map_cons, hindex, ih ho]
  | matched | broken => cases ho

/-- A name comes with the last turn, which is one of a look at what was drawn. -/
theorem Round.last_matched (h : Round ctx members turns o) {name : String}
    (ho : o = .ok (some name)) : ∃ turn, turns.getLast? = some turn ∧
      turn.outcome = .ok (.ok (.matched name)) ∧ turn.ChecksGacha ctx := by
  induction h with
  | quiet hplayed hindex hquiet h ih =>
    obtain ⟨last, hlast, hturn⟩ := ih ho
    exact ⟨last, by rw [List.getLast?_cons, hlast, Option.getD_some], hturn⟩
  | matched hplayed hindex hname hgacha =>
    cases ho
    exact ⟨_, rfl, hname, hgacha⟩
  | whole | broken => cases ho

/-- Turns that are cut short are at least one. -/
theorem Round.ne_nil (h : Round ctx members turns o) (ho : o ≠ .ok none) : turns ≠ [] := by
  cases h with
  | whole => exact absurd rfl ho
  | quiet | matched | broken => exact List.cons_ne_nil _ _

/-- A turn adds the name that it ends with. -/
theorem Turn.Played.recognised_eq {turn : Turn} (h : turn.Played ctx) :
    recognised turn.transcript = (endingName turn.outcome).toList := by
  obtain ⟨step, -, hsingle, hgoes⟩ := h
  exact recognises_playSingle turn.index hsingle turn.talk turn.outcome hgoes

/-- The turns of a pass add the name that ends it, if any. -/
theorem Round.recognised_eq (h : Round ctx members turns o) :
    recognised (turns.flatMap Turn.transcript) = o.toOption.join.toList := by
  induction h with
  | whole => rfl
  | quiet hplayed hindex hquiet h ih =>
    obtain ⟨r, -, -, hnone⟩ := hquiet
    rw [List.flatMap_cons, recognised_append, hplayed.recognised_eq, hnone, ih]
    rfl
  | matched hplayed hindex hend | broken hplayed hindex hend =>
    rw [List.flatMap_singleton, hplayed.recognised_eq, hend]
    rfl

end

/-! ## The look at the stop template -/

/-- A pass of a repetition. -/
structure Pass where
  /-- The turns of the members. -/
  turns : List Turn
  /-- What is asked and answered in the look at the stop template. -/
  check : Transcript

/-- What is asked and answered: whether to stop, what the members ask, and the look. -/
def Pass.transcript (p : Pass) : Transcript :=
  ⟨.stopRequested, false⟩ :: (p.turns.flatMap Turn.transcript ++ p.check)

namespace RepeatGroup

/-- What a repetition asks after a whole pass, and whether the answers tell it to end. -/
inductive StopChecked (s : RepeatGroup) (ctx : Context) : Transcript → Bool → Prop where
  /-- There is no stop template. -/
  | none (h : s.stopTemplatePath = none) : StopChecked s ctx [] false
  /-- The screenshot fails, which tells nothing. -/
  | failed {template : String} (h : s.stopTemplatePath = some template) (e : DeviceError) :
    StopChecked s ctx [⟨.stopRequested, false⟩, ⟨.command .screenshot, .error e⟩] false
  /-- The template is looked for, and whether it is there is compared with what was asked for. A
  question that fails counts as one without a hit. -/
  | looked {template : String} (h : s.stopTemplatePath = some template) (screen : Picture)
    (found : Except String (Option Point)) :
    StopChecked s ctx [⟨.stopRequested, false⟩, ⟨.command .screenshot, .ok screen⟩,
      ⟨.find screen (ctx.settings.templatePath template) s.threshold, found⟩]
      (s.stopOnNotFound != (found.toOption.getD none).isSome)

variable {s : RepeatGroup}

/-- The look at the stop template tells whether the repetition is to end. -/
theorem stopSeen_checked {r : Except Breakdown (Except StepError Bool)} (ht : Unstopped t)
    (h : (s.stopSeen ctx).run.Goes t r) :
    ∃ seen, r = .ok (.ok seen) ∧ s.StopChecked ctx t seen := by
  unfold stopSeen at h
  split at h
  next hnone =>
    obtain ⟨rfl, rfl⟩ := h
    exact ⟨false, rfl, .none hnone⟩
  next template hsome =>
    obtain ⟨shot, u, -, rfl, h₁⟩ := ht.play_capture h
    cases shot with
    | error e =>
      obtain ⟨rfl, rfl⟩ := h₁
      exact ⟨false, rfl, .failed hsome e⟩
    | ok screen =>
      obtain ⟨found, u, rfl, h₂⟩ := h₁
      refine ⟨s.stopOnNotFound != (found.toOption.getD none).isSome, ?_⟩
      cases found <;> (obtain ⟨rfl, rfl⟩ := h₂; exact ⟨rfl, .looked hsome screen _⟩)

/-- It adds no name. -/
theorem StopChecked.recognised_eq {seen : Bool} (h : s.StopChecked ctx t seen) :
    recognised t = [] := by
  cases h <;> rfl

/-! ## The course of a repetition -/

/-- The passes of a repetition that may take a number of them, by the name that it recognises, if
any, or the way in which it breaks off. -/
inductive Course (s : RepeatGroup) (ctx : Context) (members : List (Nat × Step)) :
    Nat → List Pass → Except Breakdown (Option String) → Prop where
  /-- All passes are used up. -/
  | spent : Course s ctx members 0 [] (.ok none)
  /-- After a whole pass, the look does not end the repetition. -/
  | next {n : Nat} {turns : List Turn} {check : Transcript} {passes : List Pass}
    {o : Except Breakdown (Option String)} (hround : Round ctx members turns (.ok none))
    (hcheck : s.StopChecked ctx check false) (h : Course s ctx members n passes o) :
    Course s ctx members (n + 1) (⟨turns, check⟩ :: passes) o
  /-- After a whole pass, the look ends the repetition. -/
  | seen {n : Nat} {turns : List Turn} {check : Transcript}
    (hround : Round ctx members turns (.ok none)) (hcheck : s.StopChecked ctx check true) :
    Course s ctx members (n + 1) [⟨turns, check⟩] (.ok none)
  /-- A name is recognised, and nothing follows. -/
  | matched {n : Nat} {turns : List Turn} {name : String}
    (hround : Round ctx members turns (.ok (some name))) :
    Course s ctx members (n + 1) [⟨turns, []⟩] (.ok (some name))
  /-- A member breaks off. -/
  | broken {n : Nat} {turns : List Turn} {b : Breakdown}
    (hround : Round ctx members turns (.error b)) :
    Course s ctx members (n + 1) [⟨turns, []⟩] (.error b)

/-- The passes of a repetition that is never told to stop. -/
theorem passes_course {members : List (Nat × Step)}
    (hmembers : ∀ m ∈ members, ctx.workflow.steps[m.1]? = some m.2 ∧ m.2.action.isRepeat = false)
    {n : Nat} {r : Except Breakdown (Except StepError Unit)} (ht : Unstopped t)
    (h : (s.passes ctx members n).run.Goes t r) :
    ∃ passes o, s.Course ctx members n passes o ∧ t = passes.flatMap Pass.transcript ∧
      r = o.map fun _ => .ok () := by
  -- Each step of the induction is a pass: cut short, or with a look that ends it or goes on.
  induction n generalizing t with
  | zero =>
    obtain ⟨rfl, rfl⟩ := h
    exact ⟨[], _, .spent, rfl, rfl⟩
  | succ n ih =>
    obtain ⟨u, hu, rfl, h₁⟩ := ht.play_checkpoint h
    -- A pass that is the last one, as it was cut short.
    have hlast (turns : List Turn) : ⟨.stopRequested, false⟩ :: turns.flatMap Turn.transcript =
        [(⟨turns, []⟩ : Pass)].flatMap Pass.transcript := by simp [Pass.transcript]
    rcases Dialogue.goes_bind_run.1 h₁ with
      ⟨hit, t₁, t₂, rfl, hpass, h₂⟩ | ⟨e, rfl, hpass⟩ | ⟨b, rfl, hpass⟩
    · obtain ⟨ht₁, ht₂⟩ := hu.of_append
      obtain ⟨turns, o, rfl, hround, ho⟩ := pass_round hmembers ht₁ hpass
      obtain ⟨name, rfl, rfl⟩ : ∃ name, o = .ok name ∧ hit = name.isSome := by
        cases o with
        | error b => exact nomatch ho
        | ok name => exact ⟨name, rfl, Except.ok.inj (Except.ok.inj ho)⟩
      cases name with
      | some name =>
        obtain ⟨rfl, rfl⟩ := h₂
        rw [List.append_nil]
        exact ⟨_, _, .matched hround, hlast turns, rfl⟩
      | none =>
        -- After a whole pass comes the look at the stop template.
        rcases Dialogue.goes_bind_run.1 h₂ with
          ⟨seen, check, t₃, rfl, hseen, h₃⟩ | ⟨e, rfl, hseen⟩ | ⟨b, rfl, hseen⟩
        · obtain ⟨hcheck, ht₃⟩ := ht₂.of_append
          obtain ⟨_, ho, hchecked⟩ := stopSeen_checked hcheck hseen
          cases ho
          cases seen with
          | true =>
            obtain ⟨rfl, rfl⟩ := h₃
            exact ⟨_, _, .seen hround hchecked, by simp [Pass.transcript], rfl⟩
          | false =>
            obtain ⟨passes, o, hcourse, rfl, rfl⟩ := ih ht₃ h₃
            exact ⟨_, o, .next hround hchecked hcourse, by simp [Pass.transcript], rfl⟩
        all_goals
          obtain ⟨_, ho, -⟩ := stopSeen_checked ht₂ hseen
          exact nomatch ho
    · obtain ⟨_, o, -, -, ho⟩ := pass_round hmembers hu hpass
      cases o <;> exact nomatch ho
    · obtain ⟨turns, o, rfl, hround, ho⟩ := pass_round hmembers hu hpass
      cases o with
      | ok name => exact nomatch ho
      | error b' =>
        cases ho
        exact ⟨_, _, .broken hround, hlast turns, rfl⟩

/-! ## The turns of all passes -/

/-- Turns in a number of passes over members, or fewer, that end with a name or break off. -/
structure InPasses (ctx : Context) (members : List (Nat × Step)) (n : Nat) (turns : List Turn)
    (o : Except Breakdown (Option String)) : Prop where
  /-- The members take them in whole passes, and the first ones in one more pass, which there may
  be, just when that ends with a name or breaks off. -/
  order : ∃ k rest, turns.map Turn.index =
      (List.replicate k (members.map Prod.fst)).flatten ++ rest ∧
    rest <+: members.map Prod.fst ∧ k ≤ n ∧ (rest ≠ [] → k < n) ∧ (rest = [] ↔ o = .ok none)
  /-- The name comes with the last turn, which is a look at what was drawn. -/
  matched : ∀ name, o = .ok (some name) →
    ∃ turn, turns.getLast? = some turn ∧ turn.outcome = .ok (.ok (.matched name)) ∧
      turn.ChecksGacha ctx

section

variable {members : List (Nat × Step)} {n : Nat} {turns later : List Turn}
  {passes : List Pass} {o : Except Breakdown (Option String)}

/-- A pass that is cut short. -/
theorem InPasses.cut (h : Round ctx members turns o) (ho : o ≠ .ok none) :
    InPasses ctx members (n + 1) turns o where
  order := by
    have hsome : turns.map Turn.index ≠ [] := fun h' => h.ne_nil ho (List.map_eq_nil_iff.1 h')
    exact ⟨0, _, rfl, h.order_prefix, Nat.zero_le _, fun _ => Nat.succ_pos n,
      fun h' => absurd h' hsome, fun h' => absurd h' ho⟩
  matched := fun _ => h.last_matched

/-- A whole pass comes first. -/
theorem InPasses.prepend (hround : Round ctx members turns (.ok none))
    (h : InPasses ctx members n later o) : InPasses ctx members (n + 1) (turns ++ later) o where
  order := by
    obtain ⟨k, rest, hlater, hprefix, hk, hmore, hrest⟩ := h.order
    have hmore' : rest ≠ [] → k + 1 < n + 1 := fun h => Nat.succ_lt_succ (hmore h)
    refine ⟨k + 1, rest, ?_, hprefix, Nat.succ_le_succ hk, hmore', hrest⟩
    rw [List.map_append, hround.order_eq rfl, hlater, List.replicate_succ, List.flatten_cons,
      List.append_assoc]
  matched := by
    intro name hname
    obtain ⟨turn, hlast, hturn⟩ := h.matched name hname
    exact ⟨turn, by rw [List.getLast?_append, hlast, Option.some_or], hturn⟩

/-- No pass is left or follows. -/
theorem InPasses.nil : InPasses ctx members n [] (.ok none) where
  order := ⟨0, [], rfl, List.nil_prefix, Nat.zero_le n, fun h => absurd rfl h, by simp⟩
  matched := nofun

/-- The turns of the passes of a repetition. -/
theorem Course.inPasses (h : s.Course ctx members n passes o) :
    InPasses ctx members n (passes.flatMap Pass.turns) o := by
  -- Only the last pass can be cut short, so each step of the induction adds a whole one in front.
  induction h with
  | spent => exact .nil
  | next hround hcheck h ih => exact ih.prepend hround
  | seen hround hcheck => exact .prepend hround .nil
  | matched hround =>
    rw [List.flatMap_singleton]
    exact .cut hround nofun
  | broken hround =>
    rw [List.flatMap_singleton]
    exact .cut hround nofun

/-! ## The names that a repetition adds -/

/-- A repetition adds the name that it ends with, if any. -/
theorem Course.recognised_eq (h : s.Course ctx members n passes o) :
    recognised (passes.flatMap Pass.transcript) = o.toOption.join.toList := by
  have hpass {turns : List Turn} {check : Transcript} {o : Except Breakdown (Option String)}
      (hround : Round ctx members turns o) (hcheck : recognised check = []) :
      recognised (Pass.transcript ⟨turns, check⟩) = o.toOption.join.toList := by
    show recognised (turns.flatMap Turn.transcript ++ check) = _
    rw [recognised_append, hround.recognised_eq, hcheck, List.append_nil]
  induction h with
  | spent => rfl
  | next hround hcheck h ih =>
    rw [List.flatMap_cons, recognised_append, hpass hround hcheck.recognised_eq, ih]
    rfl
  | seen hround hcheck =>
    rw [List.flatMap_singleton]
    exact hpass hround hcheck.recognised_eq
  | matched hround | broken hround =>
    rw [List.flatMap_singleton]
    exact hpass hround rfl

end

end RepeatGroup

/-! ## The whole repetition -/

/-- A repetition of a group, by its passes and what ends it, what is asked and answered, and its
result. -/
structure RepeatGroup.Repeats (s : RepeatGroup) (ctx : Context) (group : String)
    (passes : List Pass) (o : Except Breakdown (Option String)) (t : Transcript)
    (r : Except Breakdown (Except StepError Flow)) : Prop where
  /-- The group has a name and members. -/
  accepted : s.Accepted ctx.workflow group
  /-- The passes end as the members and the look at the stop template say. -/
  course : s.Course ctx (ctx.workflow.members group) s.maxIterations.toNat passes o
  /-- They are all there is. -/
  transcript : t = passes.flatMap Pass.transcript
  /-- The members take their turns in whole passes, and in one more that is cut short. -/
  inPasses : InPasses ctx (ctx.workflow.members group) s.maxIterations.toNat
    (passes.flatMap Pass.turns) o
  /-- Whatever ends the passes, the next step follows. -/
  result : r = o.map fun _ => .ok .next
  /-- No name is recognised but one that ends them. -/
  names : recognised t = o.toOption.join.toList
  /-- They break off only at a wait that is too long, or when the rounds are used up. -/
  lasts : ∀ b, o = .error b → TooLong (ctx.workflow.waits ctx.settings.timing) b ∨
    b = .outOfRounds ∧ ctx.rounds ≤ t.length

/-- A repetition that is accepted and never told to stop. -/
theorem RepeatGroup.Accepted.repeats {s : RepeatGroup} {group : String}
    (h : s.Accepted ctx.workflow group) {r : Except Breakdown (Except StepError Flow)}
    (ht : Unstopped t) (hgoes : (s.play ctx).run.Goes t r) :
    ∃ passes o, s.Repeats ctx group passes o t r := by
  have hmembers : ∀ m ∈ ctx.workflow.members group,
      ctx.workflow.steps[m.1]? = some m.2 ∧ m.2.action.isRepeat = false :=
    fun _ => Workflow.single_of_mem_members
  obtain ⟨passes, o, hcourse, rfl, rfl⟩ : ∃ passes o,
      s.Course ctx (ctx.workflow.members group) s.maxIterations.toNat passes o ∧
        t = passes.flatMap Pass.transcript ∧ r = o.map fun _ => .ok .next := by
    have hplay := hgoes
    rw [h.play_eq] at hplay
    rcases Dialogue.goes_bind_run.1 hplay with
      ⟨_, t₁, t₂, rfl, hpasses, rfl, rfl⟩ | ⟨e, rfl, hpasses⟩ | ⟨b, rfl, hpasses⟩
    case' inl => rw [List.append_nil] at ht ⊢
    all_goals
      obtain ⟨passes, o, hcourse, htranscript, ho⟩ := passes_course hmembers ht hpasses
      -- Passes do not fail, since no stop comes.
      cases o <;> cases ho <;> exact ⟨passes, _, hcourse, htranscript, rfl⟩
  refine ⟨passes, o, h, hcourse, rfl, hcourse.inPasses, rfl, hcourse.recognised_eq, ?_⟩
  rintro b rfl
  exact (lasts_repeatGroup s ctx (fun _ hx => hx) (Nat.le_refl ctx.rounds)).of_goes hgoes

/-- What was noted and what is in the transcript is recognised alike. -/
theorem recognised_shown (t : Transcript) :
    ((shown t).filterMap (·.1.note?)).filterMap Note.name? = recognised t := by
  rw [shown, List.filterMap_filter, List.filterMap_filterMap, recognised]
  refine List.filterMap_congr fun x _ => ?_
  unfold Request.isShown
  cases x.1.note? <;> simp

/-- The repetition of a group that is never told to stop, whatever the surroundings answer. It fails
at once if the group has no name or no members. Otherwise it takes passes, in each of which the
members take their turns in the order of the workflow, and the current step is the member then. A
member that fails or leads elsewhere changes nothing. The passes end with the first one in which a
look at what was drawn recognises a name, after which no member follows and the stop template is not
looked for; with the first one after which a screenshot is taken and the stop template is there, or
is not, as asked for; or when there were as many as there may be. Then the next step follows, the
current step is the repetition again, and no other name was recognised. Only a wait that is too long
for any clock, or rounds that are used up, cuts this short. -/
theorem repeatGroup_passes {σ : Type} (reply : (q : Request) → σ → q.Answer × σ) (c : Chronicle σ)
    (s : RepeatGroup) (ctx : Context) (index : Nat) :
    let answer := Chronicle.answer reply none
    let play := (Action.repeatGroup s).play ctx index
    let (r, chronicle) := play.run.run answer c
    (((∀ group, ¬ s.Accepted ctx.workflow group) ∧ ∃ reason, play = throw (.misconfigured reason)) ∨
      ∃ group passes o, s.Repeats ctx group passes o (play.run.transcript answer c) r ∧
        chronicle.recognised = c.recognised ++ o.toOption.join.toList) ∧
      (∀ group, ((ctx.workflow.members group).map Prod.fst).Pairwise (· < ·) ∧
        ∀ m, m ∈ ctx.workflow.members group ↔ ctx.workflow.steps[m.1]? = some m.2 ∧
          m.2.group = some group ∧ m.2.action.isRepeat = false) ∧
      Placed.Keeps index (s.placed ctx) play := by
  intro answer play
  refine ⟨?_, fun group => ⟨Workflow.members_sorted, fun m => Workflow.mem_members_iff⟩,
    s.placed_keeps⟩
  by_cases haccepted : ∃ group, s.Accepted ctx.workflow group
  · obtain ⟨group, haccepted⟩ := haccepted
    obtain ⟨passes, o, hrepeats⟩ := haccepted.repeats
      (Chronicle.unstopped reply (s.play ctx).run c)
      (Dialogue.goes_transcript answer (s.play ctx).run c)
    refine .inr ⟨group, passes, o, hrepeats, ?_⟩
    obtain ⟨-, hnotes⟩ := Chronicle.run_eq reply none (s.play ctx).run c
    have hnames : (((s.play ctx).run.run answer c).2.notes).filterMap Note.name? =
        c.notes.filterMap Note.name? ++ o.toOption.join.toList := by
      rw [hnotes, List.filterMap_append, recognised_shown, hrepeats.names]
    exact hnames
  · have hnone : ∀ group, ¬ s.Accepted ctx.workflow group := fun group h => haccepted ⟨group, h⟩
    exact .inl ⟨hnone, RepeatGroup.play_of_not_accepted hnone⟩

end Autoplay
