import Autoplay.Proofs.Account.Exports
import Autoplay.Proofs.Run.Failure

/-!
# The copy that an export makes

An export copies the account file of the device to a place that may be read, fetches it from there
and removes the copy. The copy is removed whatever comes of the fetching, but not when it cannot be
made readable: then the export fails at once and the copy stays where it is. The main statement is
`removed_iff_readable`; `copy_left_behind` shows a copy that stays.
-/

namespace Autoplay

namespace GameSettings

/-- The command that copies the account file. -/
def copyLine (game : GameSettings) : String :=
  "cp '" ++ game.prefPath ++ "' '" ++ game.exportTempPath ++ "'"

/-- The command that makes the copy readable. -/
def permitLine (game : GameSettings) : String := "chmod 644 '" ++ game.exportTempPath ++ "'"

/-- The command that removes the copy. -/
def removeLine (game : GameSettings) : String := "rm '" ++ game.exportTempPath ++ "'"

/-- What is asked and answered after the file was copied: the copy is made readable, the file is
fetched or not, and the copy is removed; or the copy cannot be made readable and nothing more is
done about it. -/
inductive Aftermath (game : GameSettings) : Transcript → Prop where
  /-- The copy is removed. -/
  | removed (permitted : String) (dest : String) (pulled : Except DeviceError Unit)
    (reply : Except DeviceError String) :
    game.Aftermath [⟨.command (.privileged game.permitLine), .ok permitted⟩,
      ⟨.command (.pull game.exportTempPath dest), pulled⟩,
      ⟨.command (.privileged game.removeLine), reply⟩]
  /-- The copy is left. -/
  | left (e : DeviceError) :
    game.Aftermath [⟨.command (.privileged game.permitLine), .error e⟩]

variable (game : GameSettings)

/-- The three commands differ: they begin with different words. -/
theorem lines_ne : game.copyLine ≠ game.permitLine ∧ game.copyLine ≠ game.removeLine ∧
    game.permitLine ≠ game.removeLine := by
  refine ⟨fun h => ?_, fun h => ?_, fun h => ?_⟩
  all_goals
    have hlist := congrArg String.toList h
    simp only [copyLine, permitLine, removeLine, String.toList_append, List.append_assoc] at hlist
  · have hsecond : 'p' = 'h' := Option.some.inj (congrArg (·.tail.head?) hlist)
    exact absurd hsecond (by decide)
  · have hfirst : 'c' = 'r' := Option.some.inj (congrArg List.head? hlist)
    exact absurd hfirst (by decide)
  · have hfirst : 'c' = 'r' := Option.some.inj (congrArg List.head? hlist)
    exact absurd hfirst (by decide)

/-- No second copy is made. -/
theorem Aftermath.copy_notMem {game : GameSettings} {t : Transcript} (h : game.Aftermath t)
    {reply : Except DeviceError String} : ⟨.command (.privileged game.copyLine), reply⟩ ∉ t := by
  obtain ⟨hpermit, hremove, -⟩ := game.lines_ne
  cases h with
  | removed permitted dest pulled reply => simp [hpermit, hremove]
  | left e => simp [hpermit]

end GameSettings

/-- A privileged command. -/
def Request.isPrivileged : Request → Bool
  | .command (.privileged _) => true
  | _ => false

/-- No privileged command was given. -/
def Unprivileged (t : Transcript) : Prop := ∀ x ∈ t, x.1.isPrivileged = false

/-- What becomes of the copy while one look at what was drawn is played. -/
inductive CopyFate (game : GameSettings) : Transcript → Prop where
  /-- There is none. -/
  | none {t : Transcript} (h : ∀ out, ⟨.command (.privileged game.copyLine), .ok out⟩ ∉ t) :
    CopyFate game t
  /-- It is made, and then removed or left. -/
  | made (before : Transcript) {after : Transcript} (last : Transcript) (out : String)
    (hbefore : Unprivileged before) (hafter : game.Aftermath after) (hlast : Unprivileged last) :
    CopyFate game (before ++ ⟨.command (.privileged game.copyLine), .ok out⟩ :: (after ++ last))

section

variable {game : GameSettings} {t u : Transcript}

/-- No such command is among others. -/
theorem Unprivileged.notMem (h : Unprivileged t) {line : String}
    {reply : Except DeviceError String} : ⟨.command (.privileged line), reply⟩ ∉ t :=
  fun hmem => Bool.noConfusion (h _ hmem)

/-- Without privileged commands there is no copy. -/
theorem CopyFate.of_unprivileged (h : Unprivileged t) : CopyFate game t :=
  .none fun _ => h.notMem

/-- Other requests before make no difference. -/
theorem CopyFate.prepend (ht : Unprivileged t) (hu : CopyFate game u) : CopyFate game (t ++ u) := by
  cases hu with
  | none hu =>
    refine .none fun out hmem => ?_
    rcases List.mem_append.1 hmem with hmem | hmem
    · exact ht.notMem hmem
    · exact hu out hmem
  | made before last out hbefore hafter hlast =>
    rw [← List.append_assoc]
    exact .made _ last out (List.forall_mem_append.2 ⟨ht, hbefore⟩) hafter hlast

/-- Nor do other requests afterwards. -/
theorem CopyFate.extend (ht : CopyFate game t) (hu : Unprivileged u) : CopyFate game (t ++ u) := by
  cases ht with
  | none ht =>
    refine .none fun out hmem => ?_
    rcases List.mem_append.1 hmem with hmem | hmem
    · exact ht out hmem
    · exact hu.notMem hmem
  | made before last out hbefore hafter hlast =>
    rw [List.append_assoc, List.cons_append, List.append_assoc]
    exact .made before _ out hbefore hafter (List.forall_mem_append.2 ⟨hlast, hu⟩)

/-- A part without privileged commands may come before. -/
theorem makes_copyFate_bind {α β : Type} {x : Play β} {f : β → Play α}
    (hx : x.run.Asks fun q => q.isPrivileged = false)
    (hf : ∀ b, (f b).run.Makes (CopyFate game)) : (x >>= f).run.Makes (CopyFate game) := by
  intro t r h
  rcases Dialogue.goes_bind_run.1 h with ⟨b, t₁, t₂, rfl, h₁, h₂⟩ | ⟨e, -, h⟩ | ⟨b, -, h⟩
  · exact (hf b t₂ r h₂).prepend (hx.of_goes h₁)
  · exact .of_unprivileged (hx.of_goes h)
  · exact .of_unprivileged (hx.of_goes h)

/-- What asks nothing makes no copy. -/
theorem makes_copyFate_done {α : Type} (r : Except StepError α) :
    (ExceptT.mk (.done r) : Play α).run.Makes (CopyFate game) := by
  rintro t _ ⟨rfl, -⟩
  exact .of_unprivileged nofun

end

/-- The preparation makes a copy that can be read, or it fails and the copy, if there is one, is
left. -/
theorem goes_prepareExport {game : GameSettings} {t : Transcript}
    {r : Except Breakdown (Except StepError Unit)} (h : (prepareExport game).run.Goes t r) :
    (r = .ok (.ok ()) ∧ ∃ out permitted, t = [⟨.stopRequested, false⟩,
      ⟨.command (.privileged game.copyLine), .ok out⟩,
      ⟨.command (.privileged game.permitLine), .ok permitted⟩]) ∨
      r ≠ .ok (.ok ()) ∧ CopyFate game t := by
  obtain ⟨told, t, rfl, h⟩ := h
  cases told with
  | true =>
    obtain ⟨rfl, rfl⟩ := h
    exact .inr ⟨nofun, .of_unprivileged (List.forall_mem_singleton.2 rfl)⟩
  | false =>
    obtain ⟨copied, t, rfl, h⟩ := h
    cases copied with
    | error e =>
      obtain ⟨rfl, rfl⟩ := h
      exact .inr ⟨nofun, .none fun out hmem => by simp at hmem⟩
    | ok out =>
      obtain ⟨permitted, t, rfl, h⟩ := h
      cases permitted with
      | error e =>
        obtain ⟨rfl, rfl⟩ := h
        exact .inr ⟨nofun, .made [⟨.stopRequested, false⟩] [] out
          (List.forall_mem_singleton.2 rfl) (.left e) nofun⟩
      | ok permitted =>
        obtain ⟨rfl, rfl⟩ := h
        exact .inl ⟨rfl, out, permitted, rfl⟩

/-- The copy that an export makes is removed, or it cannot be made readable and is left. -/
theorem makes_copyFate_exportAccount (ctx : Context) (folder label : String) :
    (exportAccount ctx folder label).run.Makes (CopyFate ctx.settings.game) := by
  rw [exportAccount_eq]
  rintro t r ⟨made, t, rfl, h⟩
  refine .prepend (t := [_]) (List.forall_mem_singleton.2 rfl) ?_
  cases made with
  | error e =>
    obtain ⟨rfl, -⟩ := h
    exact .of_unprivileged nofun
  | ok _ =>
    obtain ⟨today, t, rfl, h⟩ := h
    refine .prepend (t := [_]) (List.forall_mem_singleton.2 rfl) ?_
    rcases Dialogue.goes_bind_run.1 h with ⟨_, u, v, rfl, hprepare, hfetch⟩ | hcut
    · obtain ⟨-, pulled, reply, rfl⟩ := goes_fetchExport hfetch
      rcases goes_prepareExport hprepare with ⟨-, out, permitted, rfl⟩ | ⟨hr, -⟩
      · exact .made [⟨.stopRequested, false⟩] [] out (List.forall_mem_singleton.2 rfl)
          (.removed permitted _ pulled reply) nofun
      · exact absurd rfl hr
    · -- The preparation failed or broke off, and nothing follows it.
      have hfate {o : Except Breakdown (Except StepError Unit)}
          (ho : (prepareExport ctx.settings.game).run.Goes t o) (hne : o ≠ .ok (.ok ())) :
          CopyFate ctx.settings.game t := by
        rcases goes_prepareExport ho with ⟨heq, -⟩ | ⟨-, hfate⟩
        · exact absurd heq hne
        · exact hfate
      obtain ⟨e, -, hcut⟩ | ⟨b, -, hcut⟩ := hcut
      · exact hfate hcut nofun
      · exact hfate hcut nofun

/-- A screenshot gives no privileged command. -/
theorem unprivileged_capture : Play.capture.run.Asks fun q => q.isPrivileged = false := by
  refine ⟨rfl, fun told => ?_⟩
  cases told with
  | true => exact trivial
  | false => exact ⟨rfl, fun shot => by cases shot <;> exact trivial⟩

/-- So is the copy that a look at what was drawn makes. -/
theorem makes_copyFate_gachaCheck (s : GachaCheck) (ctx : Context) :
    (s.play ctx).run.Makes (CopyFate ctx.settings.game) := by
  -- A name that was found is noted after the export.
  have hexport (folder name : String) : (do
      let _ ← Play.attempt (exportAccount ctx folder name)
      Talk.note (.matched name)
      pure (.matched name) : Play Flow).run.Makes (CopyFate ctx.settings.game) := by
    intro t r h
    rcases goes_attempt_bind h with ⟨o, t₁, t₂, rfl, hexport, hnote⟩ | ⟨o, hexport, -⟩
    · obtain ⟨_, _, rfl, rfl, -⟩ := hnote
      exact (makes_copyFate_exportAccount ctx folder name _ _ hexport).extend
        (List.forall_mem_singleton.2 rfl)
    · exact makes_copyFate_exportAccount ctx folder name _ _ hexport
  have hnote (name : String) : (do
      Talk.note (.matched name)
      pure (.matched name) : Play Flow).run.Makes (CopyFate ctx.settings.game) := by
    rintro t r ⟨_, _, rfl, rfl, -⟩
    exact .of_unprivileged (List.forall_mem_singleton.2 rfl)
  unfold GachaCheck.play
  dsimp only
  split
  · exact makes_copyFate_done _
  refine makes_copyFate_bind unprivileged_capture.attempt fun shot => ?_
  cases shot with
  | error e => exact makes_copyFate_done _
  | ok screen =>
    have hread : (Context.readText screen s.region).Asks fun q => q.isPrivileged = false :=
      ⟨rfl, fun text => by cases text <;> exact trivial⟩
    refine makes_copyFate_bind hread.play fun text => ?_
    cases text with
    | none => exact makes_copyFate_done _
    | some text =>
      dsimp only
      split
      · exact makes_copyFate_done _
      split
      · exact hexport _ _
      · exact hnote _

/-- When a look at what was drawn has copied the account file, the copy is removed before the look
is over, whatever comes of fetching it, just if the command that makes it readable succeeded, which
is the next one. -/
theorem removed_iff_readable {s : GachaCheck} {ctx : Context} {t : Transcript}
    {r : Except Breakdown (Except StepError Flow)} (h : (s.play ctx).run.Goes t r) {out : String}
    (hcopied : ⟨.command (.privileged ctx.settings.game.copyLine), .ok out⟩ ∈ t) :
    ∃ before after permitted,
      t = before ++ ⟨.command (.privileged ctx.settings.game.copyLine), .ok out⟩ ::
        ⟨.command (.privileged ctx.settings.game.permitLine), permitted⟩ :: after ∧
      ((∃ reply, ⟨.command (.privileged ctx.settings.game.removeLine), reply⟩ ∈ after) ↔
        ∃ text, permitted = .ok text) := by
  cases makes_copyFate_gachaCheck s ctx t r h with
  | none hnone => exact absurd hcopied (hnone out)
  | made before last out' hbefore hafter hlast =>
    -- There is one copy only.
    obtain rfl : out' = out := by
      rcases List.mem_append.1 hcopied with hmem | hmem
      · exact absurd hmem hbefore.notMem
      rcases List.mem_cons.1 hmem with heq | hmem
      · cases heq
        rfl
      rcases List.mem_append.1 hmem with hmem | hmem
      · exact absurd hmem hafter.copy_notMem
      · exact absurd hmem hlast.notMem
    cases hafter with
    | removed permitted dest pulled reply =>
      refine ⟨before, _, .ok permitted, rfl, fun _ => ⟨permitted, rfl⟩, fun _ => ⟨reply, ?_⟩⟩
      simp
    | left e =>
      refine ⟨before, last, .error e, rfl, ?_, ?_⟩
      · rintro ⟨reply, hmem⟩
        exact absurd hmem hlast.notMem
      · rintro ⟨text, htext⟩
        exact nomatch htext

/-! ## A copy that is removed and one that is left -/

/-- The privileged commands, and whether each one succeeded. -/
def privilegedIn (t : Transcript) : List (String × Bool) :=
  t.filterMap fun
    | ⟨.command (.privileged line), reply⟩ => some (line, reply.isOk)
    | _ => none

/-- They are those of the transcript. -/
theorem mem_privilegedIn {t : Transcript} {line : String} {ok : Bool} :
    (line, ok) ∈ privilegedIn t ↔
      ∃ reply, ⟨.command (.privileged line), reply⟩ ∈ t ∧ reply.isOk = ok := by
  unfold privilegedIn
  rw [List.mem_filterMap]
  constructor
  · rintro ⟨x, hx, heq⟩
    split at heq
    next line' reply =>
      cases heq
      exact ⟨reply, hx, rfl⟩
    next => exact nomatch heq
  · rintro ⟨reply, hmem, rfl⟩
    exact ⟨_, hmem, rfl⟩

/-- Surroundings in which a name is drawn and some commands fail. -/
def drawingUnless (fails : Command → Bool) : (q : Request) → Unit → q.Answer × Unit
  | .command c, s => if fails c then unresponsive (.command c) s else drawing "S" (.command c) s
  | q, s => drawing "S" q s

/-- A look for one name, which exports the account to a folder. -/
def lookForOne : GachaCheck := { targets := ["S"], saveFolder := some "/out" }

/-- An empty workflow and the settings as they come. -/
def plainContext : Context := ⟨{}, {}, 0⟩

/-- A copy that is not fetched is removed all the same. -/
theorem removed_unfetched :
    let game := plainContext.settings.game
    let t := (lookForOne.play plainContext).run.transcript
      (drawingUnless fun c => match c with | .pull .. => true | _ => false) ()
    privilegedIn t = [(game.copyLine, true), (game.permitLine, true), (game.removeLine, true)] ∧
      exports t = [] ∧ ∃ out before after permitted,
        t = before ++ ⟨.command (.privileged game.copyLine), .ok out⟩ ::
          ⟨.command (.privileged game.permitLine), permitted⟩ :: after ∧
        ((∃ reply, ⟨.command (.privileged game.removeLine), reply⟩ ∈ after) ↔
          ∃ text, permitted = .ok text) := by
  intro game t
  have hprivileged : privilegedIn t =
      [(game.copyLine, true), (game.permitLine, true), (game.removeLine, true)] := by
    decide +kernel
  obtain ⟨reply, hcopied, hok⟩ := mem_privilegedIn.1 (hprivileged ▸ List.mem_cons_self)
  cases reply with
  | error e => exact nomatch hok
  | ok out =>
    exact ⟨hprivileged, by decide +kernel, out,
      removed_iff_readable (Dialogue.goes_transcript _ _ _) hcopied⟩

/-- A copy that cannot be made readable is not removed. -/
theorem copy_left_behind :
    let game := plainContext.settings.game
    let t := (lookForOne.play plainContext).run.transcript
      (drawingUnless fun c => c = .privileged game.permitLine) ()
    (∃ out, ⟨.command (.privileged game.copyLine), .ok out⟩ ∈ t) ∧
      ¬ ∃ reply, ⟨.command (.privileged game.removeLine), reply⟩ ∈ t := by
  intro game t
  have hprivileged : privilegedIn t = [(game.copyLine, true), (game.permitLine, false)] := by
    decide +kernel
  constructor
  · obtain ⟨reply, hcopied, hok⟩ := mem_privilegedIn.1 (hprivileged ▸ List.mem_cons_self)
    cases reply with
    | error e => exact nomatch hok
    | ok out => exact ⟨out, hcopied⟩
  · rintro ⟨reply, hmem⟩
    have hremoved : (game.removeLine, reply.isOk) ∈ privilegedIn t :=
      mem_privilegedIn.2 ⟨reply, hmem, rfl⟩
    obtain ⟨-, hcopy, hpermit⟩ := game.lines_ne
    rw [hprivileged] at hremoved
    simp [hcopy.symm, hpermit.symm] at hremoved

end Autoplay
