import Autoplay.Proofs.Account.Breakdown
import Autoplay.Proofs.Account.Order
import Autoplay.Proofs.Run.Chronicle
import Autoplay.Proofs.Run.Noting

/-!
# The phases of the cycle of an account

A cycle that is never told to stop goes through its phases in a fixed order, and its log and its
notes show which ones it went through: the game is closed and its cache emptied, the account file is
pushed and copied into its place, the game is started and waited for, the workflow or the claim
routine runs, and the game is closed again. A file that cannot be pushed or copied ends the cycle at
once; any other failure of a command is passed over, and that of the workflow is remembered until
the game is closed. The main statement is `cycle_in_phases`.
-/

namespace Autoplay

/-! ## What shows of a transcript -/

/-- Whether a request shows: it makes an entry in the log, or it is a note. -/
def Request.isShown (q : Request) : Bool := q.isLogged || q.note?.isSome

/-- The entries of the log and the notes, with what was answered. -/
def shown (t : Transcript) : Transcript := t.filter (·.1.isShown)

/-- One after the other. -/
theorem shown_append (t u : Transcript) : shown (t ++ u) = shown t ++ shown u :=
  List.filter_append _ _

/-- The log of a chronicle and its notes grow by what shows of a transcript. -/
theorem Chronicle.run_eq {σ α : Type} (reply : (q : Request) → σ → q.Answer × σ)
    (stop : Option Nat) (d : Talk α) (c : Chronicle σ) :
    let new := shown (d.transcript (answer reply stop) c)
    (d.run (answer reply stop) c).2.log =
        c.log ++ (new.map Sigma.fst).filter Request.isLogged ∧
      (d.run (answer reply stop) c).2.notes = c.notes ++ new.filterMap (·.1.note?) := by
  induction d generalizing c with
  | done a => exact ⟨(List.append_nil _).symm, (List.append_nil _).symm⟩
  | halt b => exact ⟨(List.append_nil _).symm, (List.append_nil _).symm⟩
  | ask q next ih =>
    let entry := shown [⟨q, (answer reply stop q c).1⟩]
    have hentry : (answer reply stop q c).2.log =
          c.log ++ (entry.map Sigma.fst).filter Request.isLogged ∧
        (answer reply stop q c).2.notes = c.notes ++ entry.filterMap (·.1.note?) := by
      cases q with
      | note n => exact ⟨(List.append_nil _).symm, rfl⟩
      | pause length =>
        unfold answer
        dsimp only
        split <;> exact ⟨(List.append_nil _).symm, (List.append_nil _).symm⟩
      | command c => exact ⟨rfl, (List.append_nil _).symm⟩
      | find screen path threshold => exact ⟨rfl, (List.append_nil _).symm⟩
      | findAll screen path threshold => exact ⟨rfl, (List.append_nil _).symm⟩
      | readText screen region => exact ⟨rfl, (List.append_nil _).symm⟩
      | _ => exact ⟨(List.append_nil _).symm, (List.append_nil _).symm⟩
    obtain ⟨hlog, hnotes⟩ := ih (answer reply stop q c).1 (answer reply stop q c).2
    have hnew : shown ((Dialogue.ask q next).transcript (answer reply stop) c) = entry ++
        shown ((next (answer reply stop q c).1).transcript (answer reply stop)
          (answer reply stop q c).2) := shown_append [_] _
    rw [hnew]
    constructor
    · rw [List.map_append, List.filter_append, ← List.append_assoc, ← hentry.1]
      exact hlog
    · rw [List.filterMap_append, ← List.append_assoc, ← hentry.2]
      exact hnotes

/-- Nothing in a transcript says that the run is to stop. -/
def Unstopped (t : Transcript) : Prop := ∀ x ∈ t, tellsStop x = false

/-- If the stop never comes, nothing says so. -/
theorem Chronicle.unstopped {σ α : Type} (reply : (q : Request) → σ → q.Answer × σ)
    (d : Talk α) (c : Chronicle σ) : Unstopped (d.transcript (answer reply none) c) := by
  induction d generalizing c with
  | done a => exact List.forall_mem_nil _
  | halt b => exact List.forall_mem_nil _
  | ask q next ih =>
    refine List.forall_mem_cons.2 ⟨?_, ih _ _⟩
    cases q <;> rfl

/-! ## Parts that are never told to stop -/

/-- After a part that never fails the rest follows, unless that part breaks off. -/
theorem goes_lift {α β : Type} {d : Talk β} {f : β → Stoppable α} {t : Transcript}
    {r : Except Breakdown (Except Stopped α)} (h : (liftM d >>= f : Stoppable α).run.Goes t r) :
    (∃ b t₁ u, t = t₁ ++ u ∧ d.Goes t₁ (.ok b) ∧ (f b).run.Goes u r) ∨
      ∃ b, r = .error b ∧ d.Goes t (.error b) := by
  have hbind : (d.bind fun b => (f b).run).Goes t r := by
    rw [← Dialogue.run_lift_bind]
    exact h
  exact Dialogue.goes_bind.1 hbind

namespace Unstopped

variable {α β : Type} {t : Transcript} {r : Except Breakdown (Except Stopped α)}

/-- What holds of a transcript holds of its parts. -/
theorem of_append {t u : Transcript} (h : Unstopped (t ++ u)) : Unstopped t ∧ Unstopped u :=
  List.forall_mem_append.1 h

/-- After a check that was passed the rest follows. -/
theorem checkpoint {f : Unit → Stoppable α} (ht : Unstopped t)
    (h : (Stoppable.checkpoint >>= f).run.Goes t r) :
    ∃ u, Unstopped u ∧ shown t = shown u ∧ (f ()).run.Goes u r := by
  obtain ⟨told, u, rfl, h⟩ := h
  obtain ⟨htold, hu⟩ := List.forall_mem_cons.1 ht
  obtain rfl : told = false := htold
  exact ⟨u, hu, rfl, h⟩

/-- After a command the rest follows. -/
theorem order {c : Command} {f : Except DeviceError c.Reply → Stoppable α} (ht : Unstopped t)
    (h : (Stoppable.order c >>= f).run.Goes t r) :
    ∃ a u, Unstopped u ∧ shown t = ⟨.command c, a⟩ :: shown u ∧ (f a).run.Goes u r := by
  obtain ⟨told, u, rfl, h⟩ := h
  obtain ⟨htold, hu⟩ := List.forall_mem_cons.1 ht
  obtain rfl : told = false := htold
  obtain ⟨a, u, rfl, h⟩ := h
  exact ⟨a, u, (List.forall_mem_cons.1 hu).2, rfl, h⟩

/-- After a wait the rest follows, unless it cannot be waited for so long. -/
theorem pauseSeconds {x : Float} {f : Unit → Stoppable α} (ht : Unstopped t)
    (h : (Stoppable.pauseSeconds x >>= f).run.Goes t r) :
    (¬ Waitable x ∧ shown t = [] ∧ r = .error .overflow) ∨
      ∃ u, Unstopped u ∧ shown t = shown u ∧ (f ()).run.Goes u r := by
  unfold Stoppable.pauseSeconds Talk.seconds at h
  cases hx : Duration.ofSeconds? x with
  | none =>
    rw [hx] at h
    obtain ⟨rfl, rfl⟩ := h
    exact .inl ⟨not_waitable_of_none hx, rfl, rfl⟩
  | some d =>
    rw [hx] at h
    have hpause : (Stoppable.pause d >>= f).run.Goes t r := h
    unfold Stoppable.pause at hpause
    split at hpause
    next hlong =>
      obtain ⟨rfl, rfl⟩ := hpause
      exact .inl ⟨not_waitable_of_long hx hlong, rfl, rfl⟩
    next =>
      obtain ⟨told, u, rfl, hrest⟩ := hpause
      obtain ⟨htold, hu⟩ := List.forall_mem_cons.1 ht
      obtain rfl : told = false := htold
      exact .inr ⟨u, hu, rfl, hrest⟩

/-- After another part the rest follows, unless that part breaks off. -/
theorem part {x : Stoppable β} {f : β → Stoppable α} (ht : Unstopped t)
    (hx : OrderlyAs (fun _ => True) (fun _ => True) ⟨⟩ x) (h : (x >>= f).run.Goes t r) :
    (∃ b, r = .error b ∧ x.run.Goes t (.error b)) ∨
      ∃ b t₁ u, Unstopped u ∧ t = t₁ ++ u ∧ x.run.Goes t₁ (.ok (.ok b)) ∧ (f b).run.Goes u r := by
  rcases Dialogue.goes_bind_run.1 h with ⟨b, t₁, u, rfl, h₁, h₂⟩ | ⟨_, -, hstop⟩ | hbroken
  · exact .inr ⟨b, t₁, u, ht.of_append.2, rfl, h₁, h₂⟩
  · -- It would have been told to stop.
    obtain ⟨x, hx, htold⟩ := hx.told hstop
    exact nomatch (ht x hx).symm.trans htold
  · exact .inl hbroken

end Unstopped

/-! ## Copying -/

/-- The owner that a file gets, by what was answered to the question for that of its folder. -/
def ownerFrom (stat : Except DeviceError String) : String :=
  match stat with
  | .ok out => if Text.allBlank out then "system:system" else Text.trim out
  | .error _ => "system:system"

/-- The exchanges of a copying that succeeds, whatever comes of what follows it. -/
def copying (source dest out : String) (chmod stat chown : Except DeviceError String) :
    Transcript :=
  [⟨.command (.privileged ("cp '" ++ source ++ "' '" ++ dest ++ "'")), .ok out⟩,
    ⟨.command (.privileged ("chmod 660 '" ++ dest ++ "'")), chmod⟩,
    ⟨.command (.privileged ("stat -c '%U:%G' '" ++ remoteParent dest ++ "'")), stat⟩,
    ⟨.command (.privileged ("chown " ++ ownerFrom stat ++ " '" ++ dest ++ "'")), chown⟩]

/-- A copying fails at once, or all of its commands follow. -/
theorem copyPrivileged_goes {source dest : String} {t : Transcript}
    {r : Except Breakdown (Except DeviceError Unit)} (h : (copyPrivileged source dest).Goes t r) :
    (∃ e, t = [⟨.command (.privileged ("cp '" ++ source ++ "' '" ++ dest ++ "'")), .error e⟩] ∧
      r = .ok (.error e)) ∨
    ∃ out chmod stat chown, t = copying source dest out chmod stat chown ∧ r = .ok (.ok ()) := by
  obtain ⟨copied, t, rfl, h⟩ := h
  cases copied with
  | error e =>
    obtain ⟨rfl, rfl⟩ := h
    exact .inl ⟨e, rfl, rfl⟩
  | ok out =>
    obtain ⟨chmod, t, rfl, stat, t, rfl, h⟩ := h
    refine .inr ⟨out, chmod, stat, ?_⟩
    cases stat with
    | ok owner =>
      obtain ⟨chown, t, rfl, rfl, rfl⟩ := h
      exact ⟨chown, rfl, rfl⟩
    | error e =>
      obtain ⟨chown, t, rfl, rfl, rfl⟩ := h
      exact ⟨chown, rfl, rfl⟩

/-! ## Phases -/

namespace Settings

variable (s : Settings) (account : String) (workflow : Option Workflow) (rounds : Nat)

/-- The commands before the account file is pushed: the game is closed, and its cache is emptied if
the settings say so. -/
def closing : List Command :=
  .forceStop s.game.package ::
    if s.game.clearCache then
      [.privileged ("rm -rf /data/data/" ++ s.game.package ++ "/cache/*")]
    else []

/-- What the workflow, or the claim routine if there is none, comes to. -/
inductive BodyPhase : Option Workflow → Transcript → Except Breakdown AccountResult → Prop where
  /-- The workflow succeeded. -/
  | succeeded {w : Workflow} {t : Transcript} {report : Report}
    (hplay : (Context.play ⟨w, s, rounds⟩).Goes t (.ok report))
    (hstatus : report.status = .succeeded) : BodyPhase (some w) t (.ok .succeeded)
  /-- The workflow failed. -/
  | failed {w : Workflow} {t : Transcript} {report : Report}
    (hplay : (Context.play ⟨w, s, rounds⟩).Goes t (.ok report))
    (hstatus : report.status = .failed) : BodyPhase (some w) t (.ok (.failed report.message))
  /-- The claim routine came to its end. -/
  | claimed {t : Transcript} {summary : ClaimSummary}
    (hclaim : s.claimRewards.run.Goes t (.ok (.ok summary))) : BodyPhase none t (.ok .succeeded)
  /-- The workflow broke off. -/
  | broken {w : Workflow} {t : Transcript} {b : Breakdown}
    (hplay : (Context.play ⟨w, s, rounds⟩).Goes t (.error b)) : BodyPhase (some w) t (.error b)
  /-- One of the waits of the claim routine is too long. -/
  | unclaimed {t : Transcript} {x : Float} (hclaim : s.claimRewards.run.Goes t (.error .overflow))
    (hx : x ∈ s.claimWaits) (hwait : ¬ Waitable x) : BodyPhase none t (.error .overflow)

/-- The phases from the start of the game on, by what shows of them and their result. -/
inductive GamePhases : Transcript → Except Breakdown AccountResult → Prop where
  /-- The wait before the start of the game is too long. -/
  | notStarted (hwait : ¬ Waitable s.timing.postPushWait) : GamePhases [] (.error .overflow)
  /-- The wait until the game has loaded comes to no end, or a length of time in it is too long. -/
  | notReady {started : Except DeviceError Unit} {poll : Transcript} {b : Breakdown}
    (hpoll : (s.waitForReady rounds).run.Goes poll (.error b))
    (hbreak : b = .outOfRounds ∨
      b = .overflow ∧ (¬ Waitable s.timing.loadTimeout ∨ ¬ Waitable s.timing.readyPoll)) :
    GamePhases (⟨.command (.startApp s.game.package), started⟩ :: shown poll) (.error b)
  /-- The workflow or the claim routine broke off. -/
  | notPlayed {started : Except DeviceError Unit} {poll body : Transcript} {ready : Bool}
    {b : Breakdown} (hpoll : (s.waitForReady rounds).run.Goes poll (.ok (.ok ready)))
    (hbody : s.BodyPhase rounds workflow body (.error b)) :
    GamePhases (⟨.command (.startApp s.game.package), started⟩ :: (shown poll ++ shown body))
      (.error b)
  /-- The wait before the end of the game is too long. -/
  | notClosed {started : Except DeviceError Unit} {poll body : Transcript} {ready : Bool}
    {result : AccountResult} (hpoll : (s.waitForReady rounds).run.Goes poll (.ok (.ok ready)))
    (hbody : s.BodyPhase rounds workflow body (.ok result))
    (hwait : ¬ Waitable s.timing.beforeCloseWait) :
    GamePhases (⟨.command (.startApp s.game.package), started⟩ :: (shown poll ++ shown body))
      (.error .overflow)
  /-- The game was started, waited for whether it loaded in time or not, played whether that went
  well or not, and closed. -/
  | closed {started closed : Except DeviceError Unit} {poll body : Transcript} {ready : Bool}
    {result : AccountResult} (hpoll : (s.waitForReady rounds).run.Goes poll (.ok (.ok ready)))
    (hbody : s.BodyPhase rounds workflow body (.ok result)) :
    GamePhases (⟨.command (.startApp s.game.package), started⟩ :: (shown poll ++ (shown body ++
      [⟨.command (.forceStop s.game.package), closed⟩]))) (.ok result)

/-- The phases of a cycle, by what shows of it and its result. -/
inductive CyclePhases : Transcript → Except Breakdown AccountResult → Prop where
  /-- The wait after the game was closed is too long. -/
  | notClosed {closed : Except DeviceError Unit} (hwait : ¬ Waitable s.timing.appCloseWait) :
    CyclePhases [⟨.command (.forceStop s.game.package), closed⟩] (.error .overflow)
  /-- The wait after the cache was emptied is too long. -/
  | notEmptied {before : Transcript} (hclear : s.game.clearCache = true)
    (hbefore : before.map Sigma.fst = s.closing.map Request.command)
    (hwait : ¬ Waitable s.timing.cacheClearWait) : CyclePhases before (.error .overflow)
  /-- The account file cannot be pushed, and nothing follows. -/
  | notPushed {before : Transcript} {e : DeviceError}
    (hbefore : before.map Sigma.fst = s.closing.map Request.command) :
    CyclePhases (before ++ [⟨.command (.push account s.game.pushTempPath), .error e⟩])
      (.ok (.failed ("Failed to push account file: " ++ e.message)))
  /-- The account file cannot be copied into its place, and nothing follows. -/
  | notCopied {before : Transcript} {e : DeviceError}
    (hbefore : before.map Sigma.fst = s.closing.map Request.command) :
    CyclePhases (before ++ [⟨.command (.push account s.game.pushTempPath), .ok ()⟩,
        ⟨.command (.privileged ("cp '" ++ s.game.pushTempPath ++ "' '" ++ s.game.prefPath ++ "'")),
          .error e⟩])
      (.ok (.failed ("Failed to copy account file with root: " ++ e.message)))
  /-- The account file is in its place, and the game follows. -/
  | placed {before log : Transcript} {out : String}
    {chmod stat chown : Except DeviceError String} {r : Except Breakdown AccountResult}
    (hbefore : before.map Sigma.fst = s.closing.map Request.command)
    (hgame : s.GamePhases workflow rounds log r) :
    CyclePhases (before ++ ⟨.command (.push account s.game.pushTempPath), .ok ()⟩ ::
      (copying s.game.pushTempPath s.game.prefPath out chmod stat chown ++ log)) r

section

variable {s : Settings} {account : String} {workflow : Option Workflow} {rounds : Nat}
  {t : Transcript}

/-- The workflow or the claim routine comes to an end. -/
theorem bodyPhase_of_ok {result : AccountResult}
    (h : (s.runOrClaim workflow rounds).run.Goes t (.ok (.ok result))) :
    s.BodyPhase rounds workflow t (.ok result) := by
  cases workflow with
  | none =>
    obtain ⟨summary, t₁, t₂, rfl, hclaim, rfl, hresult⟩ := Dialogue.goes_bind_except_ok.1 h
    cases hresult
    rw [List.append_nil]
    exact .claimed hclaim
  | some w =>
    obtain ⟨report, t₁, t₂, rfl, hplay, hresult⟩ | ⟨b, hb, -⟩ := goes_lift h
    case inr => exact nomatch hb
    split at hresult
    next hstatus =>
      obtain ⟨rfl, hresult⟩ := hresult
      cases hresult
      rw [List.append_nil]
      exact .succeeded hplay hstatus
    next hstatus =>
      obtain ⟨rfl, hresult⟩ := hresult
      cases hresult
      rw [List.append_nil]
      exact .failed hplay hstatus
    next => exact nomatch hresult.2

/-- The workflow or the claim routine breaks off. -/
theorem bodyPhase_of_error {b : Breakdown}
    (h : (s.runOrClaim workflow rounds).run.Goes t (.error b)) :
    s.BodyPhase rounds workflow t (.error b) := by
  cases workflow with
  | none =>
    rcases Dialogue.goes_bind_run.1 h with ⟨_, _, _, -, -, hend⟩ | ⟨_, hend, -⟩ | ⟨b', hb, hclaim⟩
    · exact nomatch hend.2
    · exact nomatch hend
    · cases hb
      obtain ⟨rfl, x, hx, hwait⟩ := s.halts_claimRewards.of_goes hclaim
      exact .unclaimed hclaim hx hwait
  | some w =>
    rcases goes_lift h with ⟨report, _, _, -, -, hend⟩ | ⟨b', hb, hplay⟩
    · split at hend <;> exact nomatch hend.2
    · cases hb
      exact .broken hplay

/-- From the start of the game on, a cycle that is never told to stop goes through its phases. -/
theorem gamePhases_of_goes {r : Except Breakdown (Except Stopped AccountResult)}
    (ht : Unstopped t) (h : (s.playGame workflow rounds).run.Goes t r) :
    ∃ r', r = r'.map .ok ∧ s.GamePhases workflow rounds (shown t) r' := by
  unfold playGame at h
  rcases ht.pauseSeconds h with ⟨hwait, hlog, rfl⟩ | ⟨t₁, ht₁, hlog₁, h₁⟩
  · exact ⟨.error .overflow, rfl, hlog ▸ .notStarted hwait⟩
  obtain ⟨started, t₂, ht₂, hlog₂, h₂⟩ := ht₁.order h₁
  rw [hlog₁, hlog₂]
  rcases ht₂.part (s.orderly_waitForReady rounds) h₂ with
    ⟨b, rfl, hpoll⟩ | ⟨ready, poll, t₃, ht₃, rfl, hpoll, h₃⟩
  · exact ⟨.error b, rfl, .notReady hpoll ((s.halts_waitForReady rounds).of_goes hpoll)⟩
  rw [shown_append]
  have hbody : OrderlyAs (fun _ => True) (fun _ => True) ⟨⟩ (s.runOrClaim workflow rounds) :=
    s.orderly_runOrClaim workflow rounds (fun _ => trivial) fun _ => trivial
  rcases ht₃.part hbody h₃ with ⟨b, rfl, hbroken⟩ | ⟨result, body, t₄, ht₄, rfl, hplayed, h₄⟩
  · exact ⟨.error b, rfl, .notPlayed hpoll (bodyPhase_of_error hbroken)⟩
  rw [shown_append]
  rcases ht₄.pauseSeconds h₄ with ⟨hwait, hlog, rfl⟩ | ⟨t₅, ht₅, hlog₅, h₅⟩
  · rw [hlog, List.append_nil]
    exact ⟨.error .overflow, rfl, .notClosed hpoll (bodyPhase_of_ok hplayed) hwait⟩
  obtain ⟨closed, t₆, ht₆, hlog₆, rfl, rfl⟩ := ht₅.order h₅
  rw [hlog₅, hlog₆]
  exact ⟨.ok result, rfl, .closed hpoll (bodyPhase_of_ok hplayed)⟩

/-- The cycle from the moment on at which the account file is pushed. -/
def place (s : Settings) (account : String) (workflow : Option Workflow) (rounds : Nat) :
    Stoppable AccountResult := do
  match ← Stoppable.order (.push account s.game.pushTempPath) with
  | .error e => pure (.failed ("Failed to push account file: " ++ e.message))
  | .ok () =>
    Stoppable.checkpoint
    match ← copyPrivileged s.game.pushTempPath s.game.prefPath with
    | .error e => pure (.failed ("Failed to copy account file with root: " ++ e.message))
    | .ok () => s.playGame workflow rounds

/-- Before it the game is closed, and its cache is emptied if the settings say so. -/
theorem cycle_eq (s : Settings) (account : String) (workflow : Option Workflow) (rounds : Nat) :
    s.cycle account workflow rounds = (do
      let _ ← Stoppable.order (.forceStop s.game.package)
      Stoppable.pauseSeconds s.timing.appCloseWait
      if s.game.clearCache then
        let _ ← Stoppable.order
          (.privileged ("rm -rf /data/data/" ++ s.game.package ++ "/cache/*"))
        Stoppable.pauseSeconds s.timing.cacheClearWait
        s.place account workflow rounds
      else s.place account workflow rounds) := rfl

/-- From the push on, a cycle that is never told to stop goes through its phases. -/
theorem cyclePhases_of_place {before : Transcript}
    (hbefore : before.map Sigma.fst = s.closing.map Request.command)
    {r : Except Breakdown (Except Stopped AccountResult)} (ht : Unstopped t)
    (h : (s.place account workflow rounds).run.Goes t r) :
    ∃ r', r = r'.map .ok ∧ s.CyclePhases account workflow rounds (before ++ shown t) r' := by
  unfold place at h
  obtain ⟨pushed, t₁, ht₁, hlog₁, h₁⟩ := ht.order h
  rw [hlog₁]
  cases pushed with
  | error e =>
    obtain ⟨rfl, rfl⟩ := h₁
    exact ⟨.ok _, rfl, .notPushed hbefore⟩
  | ok _ =>
    obtain ⟨t₂, ht₂, hlog₂, h₂⟩ := ht₁.checkpoint h₁
    rw [hlog₂]
    rcases goes_lift h₂ with ⟨copied, copy, t₃, rfl, hcopy, h₃⟩ | ⟨b, -, hcopy⟩
    · rw [shown_append]
      rcases copyPrivileged_goes hcopy with
        ⟨e, rfl, hcopied⟩ | ⟨out, chmod, stat, chown, rfl, hcopied⟩
      · cases hcopied
        obtain ⟨rfl, rfl⟩ := h₃
        exact ⟨.ok _, rfl, .notCopied hbefore⟩
      · cases hcopied
        obtain ⟨r', rfl, hgame⟩ := gamePhases_of_goes ht₂.of_append.2 h₃
        exact ⟨r', rfl, .placed hbefore hgame⟩
    · -- Copying does not break off.
      rcases copyPrivileged_goes hcopy with ⟨e, -, hcopied⟩ | ⟨_, _, _, _, -, hcopied⟩
      · exact nomatch hcopied
      · exact nomatch hcopied

/-- A cycle that is never told to stop goes through its phases. -/
theorem cyclePhases_of_goes {r : Except Breakdown (Except Stopped AccountResult)}
    (ht : Unstopped t) (h : (s.cycle account workflow rounds).run.Goes t r) :
    ∃ r', r = r'.map .ok ∧ s.CyclePhases account workflow rounds (shown t) r' := by
  rw [cycle_eq] at h
  obtain ⟨closed, t₁, ht₁, hlog₁, h₁⟩ := ht.order h
  rw [hlog₁]
  rcases ht₁.pauseSeconds h₁ with ⟨hwait, hlog, rfl⟩ | ⟨t₂, ht₂, hlog₂, h₂⟩
  · exact ⟨.error .overflow, rfl, hlog ▸ .notClosed hwait⟩
  rw [hlog₂]
  split at h₂
  next hclear =>
    have hclosing : s.closing = [.forceStop s.game.package,
        .privileged ("rm -rf /data/data/" ++ s.game.package ++ "/cache/*")] := by
      unfold closing
      rw [if_pos hclear]
    obtain ⟨emptied, t₃, ht₃, hlog₃, h₃⟩ := ht₂.order h₂
    rw [hlog₃]
    have hbefore : List.map Sigma.fst ([⟨.command (.forceStop s.game.package), closed⟩,
        ⟨.command (.privileged ("rm -rf /data/data/" ++ s.game.package ++ "/cache/*")), emptied⟩] :
          Transcript) = s.closing.map Request.command := by rw [hclosing]; rfl
    rcases ht₃.pauseSeconds h₃ with ⟨hwait, hlog, rfl⟩ | ⟨t₄, ht₄, hlog₄, h₄⟩
    · rw [hlog]
      exact ⟨.error .overflow, rfl, .notEmptied hclear hbefore hwait⟩
    · rw [hlog₄]
      exact cyclePhases_of_place hbefore ht₄ h₄
  next hclear =>
    have hbefore : List.map Sigma.fst ([⟨.command (.forceStop s.game.package), closed⟩] :
        Transcript) = s.closing.map Request.command := by
      unfold closing
      rw [if_neg hclear]
      rfl
    exact cyclePhases_of_place hbefore ht₂ h₂

/-- So does the processing of an account. -/
theorem cyclePhases_of_processAccount {r : Except Breakdown AccountResult} (ht : Unstopped t)
    (h : (s.processAccount account workflow rounds).Goes t r) :
    s.CyclePhases account workflow rounds (shown t) r := by
  rcases Dialogue.goes_bind.1 h with ⟨o, t₁, t₂, rfl, hcycle, hend⟩ | ⟨b, rfl, hcycle⟩
  · obtain ⟨r', ho, hphases⟩ := cyclePhases_of_goes ht.of_append.1 hcycle
    cases r' with
    | error b => exact nomatch ho
    | ok result =>
      cases ho
      obtain ⟨rfl, rfl⟩ := hend
      rwa [List.append_nil]
  · obtain ⟨r', ho, hphases⟩ := cyclePhases_of_goes ht hcycle
    cases r' with
    | error b' =>
      cases ho
      exact hphases
    | ok result => exact nomatch ho

end

end Settings

/-- The log and the notes of a cycle that is never told to stop are made of the phases that it went
through, and its result is that of the last one, whatever the surroundings answer. The commands
before the account file is pushed come first. A push or a copying that fails ends the cycle with its
message, and nothing follows. Otherwise the rest of the copying follows whatever comes of it, then
the start of the game, the wait until it has loaded, and the workflow or the claim routine; last of
all the game is closed, and the result is that of the workflow. Only a wait that is too long for any
clock, a game that is waited for without end, or a workflow that itself breaks off cuts this
short. -/
theorem cycle_in_phases {σ : Type} (reply : (q : Request) → σ → q.Answer × σ) (around : σ)
    (s : Settings) (account : String) (workflow : Option Workflow) (rounds : Nat) :
    let cycle := s.processAccount account workflow rounds
    let answer := Chronicle.answer reply none
    let course := shown (cycle.transcript answer ⟨around, [], []⟩)
    (cycle.run answer ⟨around, [], []⟩).2.log =
        (course.map Sigma.fst).filter Request.isLogged ∧
      (cycle.run answer ⟨around, [], []⟩).2.notes = course.filterMap (·.1.note?) ∧
      s.CyclePhases account workflow rounds course (cycle.run answer ⟨around, [], []⟩).1 := by
  intro cycle answer course
  obtain ⟨hlog, hnotes⟩ := Chronicle.run_eq reply none cycle ⟨around, [], []⟩
  refine ⟨hlog.trans (List.nil_append _), hnotes.trans (List.nil_append _), ?_⟩
  exact Settings.cyclePhases_of_processAccount (Chronicle.unstopped reply cycle _)
    (Dialogue.goes_transcript answer cycle _)

end Autoplay
