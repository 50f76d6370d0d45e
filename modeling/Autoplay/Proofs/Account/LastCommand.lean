import Autoplay.Account.Cycle
import Autoplay.Proofs.Dialogue.Rules

/-!
# A stop that comes during the last command of a cycle

A talk that is told to stop notices it only when it asks, so a stop comes too late for one that asks
no more. `Prompt` says of a talk that this can happen only while it waits for the answer to one of
certain commands with which it may end. The main statement, `prompt_processAccount`, says that the
cycle of an account is such a talk: the commands are those that put the account file into place,
with which it ends when they fail, and the one that closes the game.

The rules below are about what follows a part: if every way in which a talk can go on quits when it
is told to stop, the part itself does not matter (`Quits.late_bind`).
-/

namespace Autoplay

/-- The answers that a request can have when the run was told to stop. -/
def Request.MayHear : (q : Request) → q.Answer → Prop
  | .stopRequested, stop => stop = true
  | .pause _, stop => stop = true
  | _, _ => True

variable {α β : Type}

/-- Told to stop from here on, a talk has results of some kind only. -/
def EndsTold (P : α → Prop) : Talk α → Prop
  | .done a => P a
  | .halt _ => True
  | Dialogue.ask q next => ∀ a, q.MayHear a → EndsTold P (next a)

/-- Told to stop while it waits for whatever answer, a talk has results of some kind only, unless it
is done with that answer; and then it waits for one of its last commands. -/
def Prompt (P : α → Prop) (last : Command → Prop) : Talk α → Prop
  | .done _ => True
  | .halt _ => True
  | Dialogue.ask q next =>
    (∀ a, q.MayHear a →
      EndsTold P (next a) ∨ (∃ c, q = .command c ∧ last c) ∧ ∃ r, next a = .done r) ∧
      ∀ a, Prompt P last (next a)

/-- A talk has a result, or may have it with the answer to one of its last commands. -/
def EndsNext (last : Command → Prop) (r : α) : Talk α → Prop
  | .done a => a = r
  | .halt _ => False
  | Dialogue.ask q next => (∃ c, q = .command c ∧ last c) ∧ ∃ a, next a = .done r

/-! ## Rules -/

section

variable {P : α → Prop} {S : β → Prop} {last : Command → Prop} {d : Talk β} {f : β → Talk α}

/-- Told or not, a talk has the results that it can have. -/
theorem EndsTold.of_yields (h : d.Yields S) : EndsTold S d := by
  induction d with
  | done b => exact h
  | halt b => trivial
  | ask q next ih => exact fun a _ => ih a (h a)

/-- The results of joined talks are those of the second one. -/
theorem EndsTold.bind (hd : EndsTold S d) (hf : ∀ b, S b → EndsTold P (f b)) :
    EndsTold P (d.bind f) := by
  induction d with
  | done b => exact hf b hd
  | halt b => trivial
  | ask q next ih => exact fun a ha => ih a (hd a ha)

/-- A talk has no result with its next answer that it cannot have when told to stop. -/
theorem EndsTold.of_endsNext {d : Talk α} {r : α} (h : EndsTold P d) (hr : EndsNext last r d) :
    P r := by
  cases d with
  | done a =>
    have hsame : a = r := hr
    exact hsame ▸ h
  | halt b => exact hr.elim
  | ask q next =>
    obtain ⟨⟨c, rfl, -⟩, a, ha⟩ := hr
    have hnext : EndsTold P (next a) := h a trivial
    rw [ha] at hnext
    exact hnext

/-- A prompt talk that was told to stop and yet has another result after an answer was about to have
it before. -/
theorem Prompt.endsNext {q : Request} {next : q.Answer → Talk α} {a : q.Answer} {r : α}
    (h : Prompt P last (Dialogue.ask q next)) (ha : q.MayHear a)
    (hr : EndsNext last r (next a)) (hP : ¬ P r) : EndsNext last r (Dialogue.ask q next) := by
  obtain hends | ⟨hlast, r', hdone⟩ := h.1 a ha
  · exact absurd (hends.of_endsNext hr) hP
  · rw [hdone] at hr
    have hsame : r' = r := hr
    exact ⟨hlast, a, hsame ▸ hdone⟩

/-- A joined talk is prompt if, after each result of the first part, it is and notices a stop. -/
theorem Prompt.bind (hd : d.Yields S) (hends : ∀ b, S b → EndsTold P (f b))
    (hf : ∀ b, S b → Prompt P last (f b)) : Prompt P last (d.bind f) := by
  induction d with
  | done b => exact hf b hd
  | halt b => trivial
  | ask q next ih =>
    exact ⟨fun a _ => .inl ((EndsTold.of_yields (hd a)).bind hends), fun a => ih a (hd a)⟩

/-- Naming a result in another way changes nothing. -/
theorem Prompt.map (hd : Prompt S last d) {g : β → α} (hg : ∀ b, S b → P (g b)) :
    Prompt P last (d.bind fun b => .done (g b)) := by
  induction d with
  | done b => trivial
  | halt b => trivial
  | ask q next ih =>
    refine ⟨fun a ha => ?_, fun a => ih a (hd.2 a)⟩
    obtain hends | ⟨hlast, r, hdone⟩ := hd.1 a ha
    · exact .inl (hends.bind hg)
    · have hsame : (next a).bind (fun b => .done (g b)) = .done (g r) := by
        rw [hdone]
        rfl
      exact .inr ⟨hlast, g r, hsame⟩

/-- A last command, after whose answer the talk is done or notices a stop. -/
theorem prompt_command {c : Command} (hc : last c) {next : Except DeviceError c.Reply → Talk α}
    (hends : ∀ a, EndsTold P (next a) ∨ ∃ r, next a = .done r)
    (hnext : ∀ a, Prompt P last (next a)) : Prompt P last (Dialogue.ask (.command c) next) :=
  ⟨fun a _ => (hends a).imp_right fun hdone => ⟨⟨c, rfl, hc⟩, hdone⟩, hnext⟩

end

/-! ## Talks that break off at a stop -/

/-- Told to stop from here on, it breaks off. -/
def Quits (x : Stoppable α) : Prop := EndsTold (fun r => r = .error ⟨⟩) x.run

/-- A stop comes too late only for the answer to one of its last commands. -/
def Late (last : Command → Prop) (x : Stoppable α) : Prop :=
  Prompt (fun r => r = .error ⟨⟩) last x.run

section

variable {last : Command → Prop} {x : Stoppable β} {f : β → Stoppable α}

/-- What quits after each result of the first part quits. -/
theorem quits_bind (hf : ∀ b, Quits (f b)) : Quits (x >>= f) := by
  unfold Quits
  rw [Dialogue.run_bind_except]
  refine (EndsTold.of_yields (Dialogue.yields_true _)).bind fun r _ => ?_
  cases r with
  | ok b => exact hf b
  | error e => exact rfl

/-- What is done after each result of the first part may be anything that is late and quits. -/
theorem Quits.late_bind (hquits : ∀ b, Quits (f b)) (hf : ∀ b, Late last (f b)) :
    Late last (x >>= f) := by
  unfold Late
  rw [Dialogue.run_bind_except]
  refine .bind (Dialogue.yields_true _) (fun r _ => ?_) fun r _ => ?_
  · cases r with
    | ok b => exact hquits b
    | error e => exact rfl
  · cases r with
    | ok b => exact hf b
    | error e => trivial

/-- After a check. -/
theorem quits_checkpoint {f : Unit → Stoppable α} : Quits (Stoppable.checkpoint >>= f) := by
  rintro _ rfl
  exact rfl

/-- After a command that is given unless the run is to stop. -/
theorem quits_order {c : Command} {f : Except DeviceError c.Reply → Stoppable α} :
    Quits (Stoppable.order c >>= f) := by
  rintro _ rfl
  exact rfl

/-- After a wait. -/
theorem quits_pauseSeconds {s : Float} {f : Unit → Stoppable α} :
    Quits (Stoppable.pauseSeconds s >>= f) := by
  have hwait (d : Duration) :
      EndsTold (fun r => r = .error (⟨⟩ : Stopped)) (Stoppable.pause d).run := by
    unfold Stoppable.pause
    split
    · trivial
    · rintro _ rfl
      exact rfl
  have hpause : Quits (Stoppable.pauseSeconds s) := by
    have hjoin : (Stoppable.pauseSeconds s).run =
        (Talk.seconds s).bind fun d => (Stoppable.pause d).run := Dialogue.run_lift_bind _ _
    unfold Quits
    rw [hjoin]
    exact (EndsTold.of_yields (Dialogue.yields_true _)).bind fun d _ => hwait d
  unfold Quits
  rw [Dialogue.run_bind_except]
  refine EndsTold.bind hpause fun r hr => ?_
  rw [hr]
  exact rfl

/-- After a check that the run is not to stop. -/
theorem late_checkpoint {f : Unit → Stoppable α} (hf : Late last (f ())) :
    Late last (Stoppable.checkpoint >>= f) := by
  refine ⟨?_, fun told => ?_⟩
  · rintro _ rfl
    exact .inl rfl
  · cases told with
    | true => trivial
    | false => exact hf

/-- One of the last commands, given unless the run is to stop. -/
theorem late_order {c : Command} (hc : last c) {f : Except DeviceError c.Reply → Stoppable α}
    (hquits : ∀ a, Quits (f a) ∨ ∃ r, (f a).run = .done r) (hf : ∀ a, Late last (f a)) :
    Late last (Stoppable.order c >>= f) := by
  refine ⟨?_, fun told => ?_⟩
  · rintro _ rfl
    exact .inl rfl
  · cases told with
    | true => trivial
    | false => exact prompt_command hc hquits hf

end

namespace Settings

variable (s : Settings)

/-! ## The cycle of an account -/

/-- The commands with which the cycle of an account may end. -/
def IsLast (account : String) (c : Command) : Prop :=
  c = .push account s.game.pushTempPath ∨
    c = .privileged ("cp '" ++ s.game.pushTempPath ++ "' '" ++ s.game.prefPath ++ "'") ∨
    c = .forceStop s.game.package

/-- Starting the game, what runs in it, and its end. -/
theorem late_playGame (account : String) (workflow : Option Workflow) (rounds : Nat) :
    Late (s.IsLast account) (s.playGame workflow rounds) := by
  have hclose (outcome : AccountResult) : Late (s.IsLast account) (do
      let _ ← Stoppable.order (.forceStop s.game.package)
      pure outcome : Stoppable AccountResult) :=
    late_order (.inr (.inr rfl)) (fun _ => .inr ⟨_, rfl⟩) fun _ => trivial
  have hrest (outcome : AccountResult) : Late (s.IsLast account) (do
      Stoppable.pauseSeconds s.timing.beforeCloseWait
      let _ ← Stoppable.order (.forceStop s.game.package)
      pure outcome : Stoppable AccountResult) :=
    Quits.late_bind (fun _ => quits_order) fun _ => hclose outcome
  refine Quits.late_bind (fun _ => quits_order) fun _ => ?_
  refine Quits.late_bind (fun _ => ?_) fun _ => ?_
  · exact quits_bind fun _ => quits_bind fun _ => quits_pauseSeconds
  refine Quits.late_bind (fun _ => ?_) fun _ => ?_
  · exact quits_bind fun _ => quits_pauseSeconds
  exact Quits.late_bind (fun _ => quits_pauseSeconds) hrest

/-- Copying the account file ends at once if the first command fails, and well if it does not. -/
theorem copyPrivileged_ends (source dest : String) :
    ∃ next, copyPrivileged source dest =
        Dialogue.ask (.command (.privileged ("cp '" ++ source ++ "' '" ++ dest ++ "'"))) next ∧
      (∀ e, next (.error e) = .done (.error e)) ∧
      ∀ out, (next (.ok out)).Yields fun r => r = .ok () := by
  refine ⟨_, rfl, fun e => rfl, fun out => ?_⟩
  intro _ owner
  cases owner <;> exact fun _ => rfl

/-- What follows the copying of the account file is late if it is when the copying went well; if the
copying fails, the cycle is done. -/
theorem late_copyPrivileged (account : String)
    {f : Except DeviceError Unit → Stoppable AccountResult}
    (hfails : ∀ e, ∃ r, (f (.error e)).run = .done r) (hquits : Quits (f (.ok ())))
    (hf : Late (s.IsLast account) (f (.ok ()))) :
    Late (s.IsLast account) (liftM (copyPrivileged s.game.pushTempPath s.game.prefPath) >>= f) := by
  obtain ⟨next, hcopy, herror, hok⟩ := copyPrivileged_ends s.game.pushTempPath s.game.prefPath
  have hjoin : (liftM (copyPrivileged s.game.pushTempPath s.game.prefPath) >>= f :
      Stoppable AccountResult).run = Dialogue.ask
        (.command (.privileged ("cp '" ++ s.game.pushTempPath ++ "' '" ++ s.game.prefPath ++ "'")))
        fun copied => (next copied).bind fun r => (f r).run := by
    rw [hcopy]
    exact Dialogue.run_lift_bind _ f
  have hsame {r : Except DeviceError Unit} (hr : r = .ok ()) : f r = f (.ok ()) := by rw [hr]
  unfold Late
  rw [hjoin]
  refine prompt_command (.inr (.inl rfl)) (fun copied => ?_) fun copied => ?_
  · cases copied with
    | error e =>
      rw [herror]
      exact .inr (hfails e)
    | ok out =>
      refine .inl ((EndsTold.of_yields (hok out)).bind fun r hr => ?_)
      rw [hsame hr]
      exact hquits
  · cases copied with
    | error e =>
      obtain ⟨r, hr⟩ := hfails e
      rw [herror]
      show Prompt _ _ (f (.error e)).run
      rw [hr]
      trivial
    | ok out =>
      refine .bind (hok out) (fun r hr => ?_) fun r hr => ?_
      · rw [hsame hr]
        exact hquits
      · rw [hsame hr]
        exact hf

/-- The cycle of an account. -/
theorem late_cycle (account : String) (workflow : Option Workflow) (rounds : Nat) :
    Late (s.IsLast account) (s.cycle account workflow rounds) := by
  -- Everything before the transfer is followed by something that quits.
  unfold cycle
  refine Quits.late_bind (fun _ => quits_pauseSeconds) fun _ => ?_
  refine Quits.late_bind (fun _ => ?_) fun _ => ?_
  · dsimp only
    split
    · exact quits_order
    · exact quits_order
  dsimp only
  split
  case' isTrue =>
    refine Quits.late_bind (fun _ => quits_pauseSeconds) fun _ => ?_
    refine Quits.late_bind (fun _ => quits_order) fun _ => ?_
  all_goals
    refine late_order (.inl rfl) (fun pushed => ?_) fun pushed => ?_
    · cases pushed with
      | error e => exact .inr ⟨_, rfl⟩
      | ok _ => exact .inl quits_checkpoint
    · cases pushed with
      | error e => trivial
      | ok _ =>
        refine late_checkpoint ?_
        exact s.late_copyPrivileged account (fun _ => ⟨_, rfl⟩) quits_pauseSeconds
          (s.late_playGame account workflow rounds)

/-- The cycle of an account may have another result than that it was told to stop only if it is
told while the last of its commands is under way. -/
theorem prompt_processAccount (account : String) (workflow : Option Workflow) (rounds : Nat) :
    Prompt (fun r => r = .aborted) (s.IsLast account)
      (s.processAccount account workflow rounds) := by
  let outcome (r : Except Stopped AccountResult) : AccountResult := r.toOption.getD .aborted
  have hmap : s.processAccount account workflow rounds =
      (s.cycle account workflow rounds).run.bind fun r => .done (outcome r) := by
    unfold processAccount
    show Dialogue.bind _ _ = _
    congr 1
    funext r
    cases r <;> rfl
  rw [hmap]
  refine Prompt.map (s.late_cycle account workflow rounds) fun r hr => ?_
  rw [hr]
  rfl

/-- Told to stop from its beginning on, it has no other result. -/
theorem endsTold_processAccount (account : String) (workflow : Option Workflow) (rounds : Nat) :
    EndsTold (fun r => r = .aborted) (s.processAccount account workflow rounds) := by
  have hquits : Quits (s.cycle account workflow rounds) := quits_order
  refine EndsTold.bind hquits fun r hr => ?_
  rw [hr]
  exact rfl

end Settings

end Autoplay
