import Autoplay.Proofs.Run.Decision
import Autoplay.Proofs.Run.Repetition

/-!
# What follows a decision

The notes of a run say which steps begin and what the conditional steps decide. A decision is noted
right after its step began, and the next note is that of the step that begins then. After a
conditional step that runs on its own this is the step to which the branch of the decision leads.
After one that runs as a member of a repeated group it is the next member, or the first one again,
or the step after the repetition: whatever was decided, no member leads elsewhere. The main
statement is `next_after_decision`, and `jump_not_taken` shows a decision to jump that nothing comes
of.
-/

namespace Autoplay

/-! ## Notes in order -/

/-- What was noted. -/
def noted (t : Transcript) : List Note := t.filterMap (·.1.note?)

/-- One after the other. -/
theorem noted_append (t u : Transcript) : noted (t ++ u) = noted t ++ noted u :=
  List.filterMap_append

/-- What is no note counts for nothing. -/
theorem noted_eq_nil {t : Transcript} (h : ∀ x ∈ t, x.1.note? = none) : noted t = [] :=
  List.filterMap_eq_nil_iff.2 h

/-- A place among blocks with a head lies in one of the blocks, unless it is a head. -/
theorem flatMap_cons_split {α β : Type} {head : α → β} {tail : α → List β} {y : β} {l : List α}
    {before after : List β} (h : l.flatMap (fun x => head x :: tail x) = before ++ y :: after)
    (hhead : ∀ x ∈ l, head x ≠ y) :
    ∃ l₁ x l₂ u v, l = l₁ ++ x :: l₂ ∧ tail x = u ++ y :: v ∧
      before = l₁.flatMap (fun x => head x :: tail x) ++ head x :: u ∧
      after = v ++ l₂.flatMap fun x => head x :: tail x := by
  induction l generalizing before with
  | nil => exact absurd h.symm (List.append_ne_nil_of_right_ne_nil _ (List.cons_ne_nil _ _))
  | cons x rest ih =>
    obtain ⟨hx, hrest⟩ := List.forall_mem_cons.1 hhead
    rw [List.flatMap_cons] at h
    cases before with
    | nil => exact absurd (List.cons.inj h).1 hx
    | cons c before =>
      rw [List.cons_append, List.cons_append] at h
      obtain ⟨rfl, htail⟩ := List.cons.inj h
      -- The place lies in a later block.
      have hlater {u : List β} (hbefore : before = tail x ++ u)
          (hu : rest.flatMap (fun x => head x :: tail x) = u ++ y :: after) :
          ∃ l₁ x' l₂ u v, x :: rest = l₁ ++ x' :: l₂ ∧ tail x' = u ++ y :: v ∧
            head x :: before = l₁.flatMap (fun x => head x :: tail x) ++ head x' :: u ∧
            after = v ++ l₂.flatMap fun x => head x :: tail x := by
        obtain ⟨l₁, x', l₂, u', v, rfl, hx', rfl, hafter⟩ := ih hu hrest
        exact ⟨x :: l₁, x', l₂, u', v, rfl, hx', by simp [hbefore], hafter⟩
      rcases List.append_eq_append_iff.1 htail with ⟨u, hbefore, hu⟩ | ⟨u, hx', hu⟩
      · exact hlater hbefore hu
      · cases u with
        | nil => exact hlater (u := []) (by rw [hx', List.append_nil, List.append_nil]) hu.symm
        | cons z v =>
          obtain ⟨rfl, rfl⟩ := List.cons.inj hu
          exact ⟨[], x, rest, before, v, rfl, hx', rfl, rfl⟩

variable {ctx : Context} {t : Transcript}

/-- An action that is not the repetition of a group notes at most one decision, and nothing besides
it; then it ends as the branch of the decision says. -/
theorem noted_playSingle {a : Action} {index : Nat} {r : Except Breakdown (Except StepError Flow)}
    (h : (a.playSingle ctx index).run.Goes t r) {d : Decision} {before after : List Note}
    (hd : noted t = before ++ .decided d :: after) :
    before = [] ∧ after = [] ∧ d.step = index + 1 ∧
      ∃ o, r = .ok o ∧ Flow.next? index o = some (d.branch.next index) ∧
        ∀ name, o ≠ .ok (.matched name) := by
  have hmem : Note.decided d ∈ noted t := by rw [hd]; simp
  obtain ⟨x, hx, hnote⟩ := List.mem_filterMap.1 hmem
  -- Only a conditional step notes a decision.
  obtain ⟨c, rfl⟩ : ∃ c, a = .conditional c := by
    have hnotes : Notes (fun n => n.decision?.isSome = true → ∃ c, a = .conditional c)
        (a.playSingle ctx index).run :=
      notes_playSingle ctx index a (fun c hc _ _ _ => ⟨c, hc⟩) fun _ _ _ => nofun
    exact hnotes.of_goes h x hx _ hnote rfl
  rcases conditional_goes c h with ⟨u, found, hu, rfl, rfl⟩ | ⟨hsilent, -⟩
  · rw [noted_append, noted_eq_nil hu] at hd
    obtain ⟨rfl, hd⟩ | ⟨_, -, hd⟩ := List.cons_eq_append_iff.1 hd
    · obtain ⟨hdecision, rfl⟩ := List.cons.inj hd
      obtain rfl := Note.decided.inj hdecision
      refine ⟨rfl, rfl, rfl, _, rfl, c.next?_eq _ index found, fun name hname => ?_⟩
      exact c.verdict_ne_matched hname
    · simp at hd
  · rw [noted_eq_nil hsilent] at hmem
    exact nomatch hmem

/-- The notes of turns are, for each one, that its member began and what it noted. -/
theorem Woven.noted_eq {turns : List Turn} (h : Woven ctx (·.note? = none) turns t) :
    noted t = turns.flatMap fun turn => .joined turn.index :: noted turn.talk := by
  induction h with
  | nil => rfl
  | @other q a _ t hq _ ih =>
    have hskip : noted (⟨q, a⟩ :: t) = noted t := List.filterMap_cons_none hq
    exact hskip.trans ih
  | turn _ _ ih =>
    rw [noted_append, ih]
    rfl

/-- The notes of a leg are that its step began and what the step noted. -/
theorem Leg.Played.noted_eq {l : Leg} (h : l.Played ctx) :
    noted l.transcript = .began l.index :: noted l.talk := by
  have hchecks : noted l.checks = [] := noted_eq_nil fun x hx => by rw [h.checks x hx]; rfl
  have hafter : noted (l.talk ++ l.checks) = noted l.talk := by
    rw [noted_append, hchecks, List.append_nil]
  exact congrArg (Note.began l.index :: ·) hafter

/-- The notes of a run are those of its legs. -/
theorem Context.Journey.noted_eq {n executed : Nat} {r : Except Breakdown Report}
    {opening : Transcript} {legs : List Leg} (h : ctx.Journey n executed t r opening legs) :
    noted t = legs.flatMap fun l => .began l.index :: noted l.talk := by
  have hopening : noted opening = [] := noted_eq_nil fun x hx => by rw [h.opening x hx]; rfl
  have hlegs : noted (legs.flatMap Leg.transcript) =
      legs.flatMap fun l => .began l.index :: noted l.talk := by
    rw [noted, List.filterMap_flatMap, List.flatMap_def, List.flatMap_def]
    exact congrArg List.flatten (List.map_congr_left fun l hl => (h.played l hl).noted_eq)
  rw [h.transcript, noted_append, hopening, hlegs, List.nil_append]

/-! ## Members in turn -/

/-- In a list that is repeated, each place holds what the list itself holds there. -/
theorem getElem?_of_replicate {α : Type} {l : List α} {n m : Nat} {x : α}
    (h : (List.replicate n l).flatten[m]? = some x) : l[m % l.length]? = some x := by
  induction n generalizing m with
  | zero => exact nomatch h
  | succ n ih =>
    rw [List.replicate_succ, List.flatten_cons] at h
    rcases Nat.lt_or_ge m l.length with hm | hm
    · rw [List.getElem?_append_left hm] at h
      rwa [Nat.mod_eq_of_lt hm]
    · rw [List.getElem?_append_right hm] at h
      rw [Nat.mod_eq_sub_mod hm]
      exact ih h

/-- A list that is repeated ends as the list itself. -/
theorem getLast?_of_replicate {α : Type} {l : List α} {n : Nat} {x : α}
    (h : (List.replicate n l).flatten.getLast? = some x) : l.getLast? = some x := by
  cases n with
  | zero => exact nomatch h
  | succ n =>
    rw [List.replicate_succ', List.flatten_append, List.flatten_singleton,
      List.getLast?_append] at h
    cases hl : l.getLast? with
    | some y => rwa [hl] at h
    | none =>
      rw [List.getLast?_eq_none_iff.1 hl] at h
      simp at h

namespace Workflow

/-- The positions of the members of a group. -/
def places (w : Workflow) (group : String) : List Nat := (w.members group).map Prod.fst

/-- How a step that begins follows a conditional step that took a branch. -/
inductive Follows (w : Workflow) (branch : Branch) : Note → Note → Prop where
  /-- After one that runs on its own comes the first step that runs on its own from where the branch
  leads. -/
  | own {i j : Nat} (hnext : w.IsNext (branch.next i) j) : w.Follows branch (.began i) (.began j)
  /-- After a member comes the next one of its group, and after the last one the first one. -/
  | member {group : String} {i j k : Nat} (hi : (w.places group)[k]? = some i)
    (hj : (w.places group)[(k + 1) % (w.places group).length]? = some j) :
    w.Follows branch (.joined i) (.joined j)
  /-- After the last member of a group comes the first step that runs on its own after the
  repetition of the group. -/
  | last {group : String} {g : RepeatGroup} {r : Step} {i j n : Nat}
    (hi : (w.places group).getLast? = some i) (hr : w.steps[n]? = some r)
    (hg : r.action = .repeatGroup g) (hgroup : g.group = some group)
    (hnext : w.IsNext (n + 1) j) : w.Follows branch (.joined i) (.began j)

end Workflow

/-- The turns of a repetition follow one another as the members of the group do. -/
theorem RepetitionTurns.place {group : String} {passes : Nat}
    {o : Except Breakdown (Except StepError Unit)} {turns : List Turn}
    (h : RepetitionTurns ctx (ctx.workflow.members group) passes t o turns) {m : Nat} {turn : Turn}
    (hturn : turns[m]? = some turn) :
    (ctx.workflow.places group)[m % (ctx.workflow.places group).length]? = some turn.index := by
  have hindex : (turns.map Turn.index)[m]? = some turn.index := by
    rw [List.getElem?_map, hturn]
    rfl
  obtain ⟨rest, hrest⟩ := h.order
  refine getElem?_of_replicate (n := passes) ?_
  rw [Workflow.places, ← hrest, List.getElem?_append_left (List.getElem?_eq_some_iff.1 hindex).1]
  exact hindex

/-- After a turn comes that of the next member, or of the first one. -/
theorem RepetitionTurns.follows {group : String} {passes : Nat}
    {o : Except Breakdown (Except StepError Unit)} {turns₁ turns₂ : List Turn} {turn turn' : Turn}
    (h : RepetitionTurns ctx (ctx.workflow.members group) passes t o
      (turns₁ ++ turn :: turn' :: turns₂)) (branch : Branch) :
    ctx.workflow.Follows branch (.joined turn.index) (.joined turn'.index) := by
  have hturn : (turns₁ ++ turn :: turn' :: turns₂)[turns₁.length]? = some turn := by simp
  have hturn' : (turns₁ ++ turn :: turn' :: turns₂)[turns₁.length + 1]? = some turn' := by simp
  refine .member (h.place hturn) ?_
  rw [Nat.mod_add_mod]
  exact h.place hturn'

/-- If no name was recognised in the last turn, it is the turn of the last member. -/
theorem RepetitionTurns.last_place {group : String} {passes : Nat} {turns : List Turn} {turn : Turn}
    (h : RepetitionTurns ctx (ctx.workflow.members group) passes t (.ok (.ok ()))
      (turns ++ [turn])) (hmatched : ¬ turn.Matched) :
    (ctx.workflow.places group).getLast? = some turn.index := by
  have hlast : (turns ++ [turn]).getLast? = some turn := List.getLast?_concat
  rcases h.ended rfl with ⟨k, hk⟩ | ⟨turn', hturn', hmatched'⟩
  · refine getLast?_of_replicate (n := k) ?_
    rw [Workflow.places, ← hk, List.getLast?_map, hlast]
    rfl
  · obtain rfl : turn = turn' := Option.some.inj (hlast.symm.trans hturn')
    exact absurd hmatched' hmatched

/-! ## What follows a decision -/

/-- What was noted around a decision while a step ran. -/
inductive Leg.Decided (ctx : Context) (l : Leg) (d : Decision) : List Note → List Note → Prop where
  /-- The step itself decided, and ended as the branch says. -/
  | own {o : Except StepError Flow} (hstep : d.step = l.index + 1) (houtcome : l.outcome = .ok o)
    (hnext : Flow.next? l.index o = some (d.branch.next l.index)) : Decided ctx l d [] []
  /-- A member of the group that the step repeats decided, and what was noted next, if anything, is
  that another member began; otherwise, if the run goes on, the next step follows. -/
  | member {before after : List Note} {i : Nat} (hstep : d.step = i + 1)
    (hbegan : before.getLast? = some (.joined i))
    (hafter : ∀ n, after.head? = some n → ctx.workflow.Follows d.branch (.joined i) n)
    (hlast : after = [] → ∀ l', l.LeadsTo ctx.workflow l' →
      ctx.workflow.Follows d.branch (.joined i) (.began l'.index)) : Decided ctx l d before after

/-- An accepted repetition that lets the run go on has come to its end. -/
theorem RepeatGroup.Accepted.ended {s : RepeatGroup} {group : String}
    (h : s.Accepted ctx.workflow group) {index target : Nat}
    {o : Except Breakdown (Except StepError Unit)} {flow : Except StepError Flow}
    (hgoes : (s.play ctx).run.Goes t (o.map (·.map fun _ => .next)))
    (hflow : o.map (·.map fun _ => Flow.next) = .ok flow)
    (hnext : Flow.next? index flow = some target) : o = .ok (.ok ()) ∧ target = index + 1 := by
  cases o with
  | error b => exact nomatch hflow
  | ok o =>
    cases o with
    | ok _ =>
      cases hflow
      exact ⟨rfl, (Option.some.inj hnext).symm⟩
    | error e =>
      -- It fails only by a stop, which ends the run.
      cases hflow
      have he : e = .aborted := Dialogue.Yields.of_goes h.onlyStops hgoes e rfl
      rw [he] at hnext
      exact nomatch hnext

/-- A decision that was noted while a step ran is that of the step itself or of a member of the
group that it repeats. -/
theorem Leg.Played.decided {l : Leg} (h : l.Played ctx) {d : Decision} {before after : List Note}
    (hd : noted l.talk = before ++ .decided d :: after) : l.Decided ctx d before after := by
  obtain ⟨s, hs, hgoes⟩ := h.goes
  cases hrepeat : s.action.isRepeat with
  | false =>
    rw [Action.play_eq_playSingle hrepeat] at hgoes
    obtain ⟨rfl, rfl, hstep, o, houtcome, hnext, -⟩ := noted_playSingle hgoes hd
    exact .own hstep houtcome hnext
  | true =>
    obtain ⟨g, hg⟩ : ∃ g, s.action = .repeatGroup g := by
      cases ha : s.action with
      | repeatGroup g => exact ⟨g, rfl⟩
      | _ => exact nomatch ha ▸ hrepeat
    rw [hg] at hgoes
    rcases repeatGroup_goes g hgoes with ⟨hnil, -⟩ | ⟨group, o, turns, haccepted, hturns, houtcome⟩
    · rw [hnil] at hd
      exact absurd hd.symm (List.append_ne_nil_of_right_ne_nil _ (List.cons_ne_nil _ _))
    -- The decision was noted in one of the turns, and nothing else in that turn.
    rw [hturns.woven.noted_eq] at hd
    obtain ⟨turns₁, turn, turns₂, u, v, rfl, htalk, rfl, rfl⟩ :=
      flatMap_cons_split hd fun _ _ => nofun
    obtain ⟨_, -, -, hsingle⟩ := hturns.woven.played turn (by simp)
    obtain ⟨rfl, rfl, hstep, o', hturn, -, hmatched⟩ := noted_playSingle hsingle htalk
    refine .member hstep List.getLast?_concat (fun n hn => ?_) fun hnil l' hleads => ?_
    · cases turns₂ with
      | nil => exact nomatch hn
      | cons turn' rest =>
        obtain rfl : Note.joined turn'.index = n := Option.some.inj hn
        exact hturns.follows d.branch
    · obtain rfl : turns₂ = [] := by
        cases turns₂ with
        | nil => rfl
        | cons turn' rest => exact nomatch hnil
      obtain ⟨flow, target, hflow, hnext, hl'⟩ := hleads
      rw [houtcome] at hgoes hflow
      obtain ⟨rfl, rfl⟩ := haccepted.ended hgoes hflow hnext
      have hlast : ¬ turn.Matched := by
        rintro ⟨name, hname⟩
        rw [hturn] at hname
        exact hmatched name (Except.ok.inj hname)
      exact .last (hturns.last_place hlast) hs hg haccepted.1 hl'

/-- Whatever is answered, a decision is noted right after the conditional step began, on its own or
as a member of a group that is repeated, and what is noted next, if anything, is that the step began
that follows it: after a step on its own the first one that runs on its own from where the branch
leads, and after a member, whatever the branch, the next member of the group, the first one again
after the last one, or the step after the repetition. -/
theorem next_after_decision {σ : Type} (ctx : Context) (answer : (q : Request) → σ → q.Answer × σ)
    (s : σ) {before after : List Note} {d : Decision}
    (h : noted (ctx.play.transcript answer s) = before ++ .decided d :: after) :
    ∃ i begin, d.step = i + 1 ∧ (begin = .began i ∨ begin = .joined i) ∧
      before.getLast? = some begin ∧
      ∀ n, after.head? = some n → ctx.workflow.Follows d.branch begin n := by
  obtain ⟨opening, legs, hjourney, hlinked⟩ :=
    playFrom_linked ctx ctx.rounds 0 0 (Dialogue.goes_transcript answer ctx.play s)
  have hnoted := hjourney.noted_eq.symm.trans h
  obtain ⟨legs₁, l, legs₂, u, v, rfl, htalk, rfl, rfl⟩ :=
    flatMap_cons_split hnoted fun _ _ => nofun
  -- The leg that is next begins where this one leads.
  have hleads {n : Note} (hn : (legs₂.flatMap fun l => .began l.index :: noted l.talk).head? =
      some n) : ∃ l', n = .began l'.index ∧ l.LeadsTo ctx.workflow l' := by
    cases legs₂ with
    | nil => exact nomatch hn
    | cons l' rest =>
      exact ⟨l', (Option.some.inj hn).symm, (List.isChain_append_cons_cons.1 hlinked).2.1⟩
  have hplayed := hjourney.played l (by simp)
  cases hplayed.decided htalk with
  | @own o hstep houtcome hnext =>
    refine ⟨l.index, .began l.index, hstep, .inl rfl, List.getLast?_concat, fun n hn => ?_⟩
    obtain ⟨l', rfl, o', target, ho', htarget, hl'⟩ := hleads hn
    obtain rfl := Except.ok.inj (houtcome.symm.trans ho')
    obtain rfl := Option.some.inj (hnext.symm.trans htarget)
    exact .own hl'
  | @member _ _ i hstep hbegan hafter hlast =>
    refine ⟨i, .joined i, hstep, .inr rfl, ?_, fun n hn => ?_⟩
    · rw [List.getLast?_append, List.getLast?_cons, hbegan]
      rfl
    · cases v with
      | cons n' rest => exact hafter n hn
      | nil =>
        obtain ⟨l', rfl, hl'⟩ := hleads hn
        exact hlast rfl l' hl'

/-- A conditional step, which may belong to a group, wants to jump over the repetition of another
step. -/
def jumpOver (group : Option String) : Context where
  workflow.steps := [
    { group, action := .conditional
        { templatePath := "x.png", condition := .imageExists, gotoOnTrue := some 4 } },
    { action := .click { x := 1, y := 1 }, group := some "g" },
    { action := .repeatGroup { group := some "g", maxIterations := 1 } },
    { action := .click { x := 2, y := 2 } }]
  settings := {}
  rounds := 10

/-- The step jumps if it runs on its own. -/
theorem jump_taken :
    noted ((jumpOver none).play.transcript (sighted (some ⟨5, 5⟩)) ()) =
      [.began 0] ++ .decided ⟨1, "conditional x.png", .thenGo 4⟩ :: [.began 3] ∧
    ∃ i begin, 1 = i + 1 ∧ (begin = .began i ∨ begin = .joined i) ∧
      [Note.began 0].getLast? = some begin ∧
      ∀ n, [Note.began 3].head? = some n →
        (jumpOver none).workflow.Follows (.thenGo 4) begin n := by
  have hnoted : noted ((jumpOver none).play.transcript (sighted (some ⟨5, 5⟩)) ()) =
      [.began 0] ++ .decided ⟨1, "conditional x.png", .thenGo 4⟩ :: [.began 3] := by
    decide +kernel
  exact ⟨hnoted, next_after_decision _ _ _ hnoted⟩

/-- As a member of the group it decides to jump all the same, but the next member follows, which is
not the first step that runs on its own from the target on. -/
theorem jump_not_taken :
    noted ((jumpOver (some "g")).play.transcript (sighted (some ⟨5, 5⟩)) ()) =
      [.began 2, .joined 0, .decided ⟨1, "conditional x.png", .thenGo 4⟩, .joined 1, .began 3] ∧
    ¬ (jumpOver (some "g")).workflow.IsNext (4 - 1) 1 :=
  ⟨by decide +kernel, fun h => absurd h.le (by decide)⟩

end Autoplay
