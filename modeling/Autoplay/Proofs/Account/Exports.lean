import Autoplay.Proofs.Account.Composition
import Autoplay.Proofs.Account.Interruption
import Autoplay.Proofs.Run.Naming
import Mathlib.Combinatorics.Enumerative.DoubleCounting

/-!
# Exported files

Every file that a cycle fetches from a device is named after the label that the cycle notes next and
the day that it was told last. So the exports of any number of cycles to one folder write to the
same file exactly when their labels, as they stand in a file name, and their days agree, and there
are as many files as there are such pairs (`same_file_iff_same_label_and_day`). Which account was
exported makes no difference, and a second export of a label on one day replaces the first
(`export_replaces_another_account`).
-/

namespace Autoplay

/-! ## The exports of a transcript -/

/-- A file that was fetched from a device. -/
structure Export where
  /-- Where it was written. -/
  dest : String
  /-- The label that was noted next, if any was. -/
  label : Option String
  /-- The day that was told last, if any was. -/
  day : Option Date
deriving DecidableEq, Repr

/-- What the file name keeps of the label and the day. -/
def Export.key (e : Export) : Option String × Option Date := (e.label.map fileLabel, e.day)

/-- Where a file was written that was fetched. -/
def fetchedTo? : Exchange Request Request.Answer → Option String
  | ⟨.command (.pull _ dest), .ok _⟩ => some dest
  | _ => none

/-- The day that was told. -/
def dayTold? : Exchange Request Request.Answer → Option Date
  | ⟨.today, day⟩ => some day
  | _ => none

/-- The label that was noted. -/
def matched? : Exchange Request Request.Answer → Option String
  | ⟨.note (.matched label), _⟩ => some label
  | _ => none

/-- The label that is noted first. -/
def firstMatched (t : Transcript) : Option String := t.findSome? matched?

/-- The exports of a transcript, when `day` was told last before it. -/
def exportsFrom (day : Option Date) : Transcript → List Export
  | [] => []
  | x :: rest =>
    let told := (dayTold? x).or day
    (fetchedTo? x).toList.map (⟨·, firstMatched rest, told⟩) ++ exportsFrom told rest

/-- The exports of a transcript. -/
def exports (t : Transcript) : List Export := exportsFrom none t

/-! ## Stretches of a transcript -/

section

variable {t u rest : Transcript} {day : Option Date}

/-- What fetches nothing exports nothing; it may tell another day. -/
theorem exportsFrom_append_unfetched (h : ∀ x ∈ t, fetchedTo? x = none) :
    ∃ day', exportsFrom day (t ++ rest) = exportsFrom day' rest := by
  induction t generalizing day with
  | nil => exact ⟨day, rfl⟩
  | cons x t ih =>
    obtain ⟨hx, ht⟩ := List.forall_mem_cons.1 h
    obtain ⟨day', hday'⟩ := @ih ((dayTold? x).or day) ht
    refine ⟨day', ?_⟩
    rw [List.cons_append, exportsFrom, hx, ← hday']
    rfl

/-- A routine request fetches nothing and tells no day. -/
theorem unfetched_of_isRoutine {x : Exchange Request Request.Answer} (hx : x.1.isRoutine = true) :
    fetchedTo? x = none ∧ dayTold? x = none := by
  obtain ⟨q, a⟩ := x
  cases q with
  | today => exact absurd hx Bool.false_ne_true
  | command c =>
    cases c with
    | pull source dest => exact absurd hx Bool.false_ne_true
    | _ => exact ⟨rfl, rfl⟩
  | _ => exact ⟨rfl, rfl⟩

/-- So routine requests make no difference. -/
theorem exportsFrom_append_routine (h : ∀ x ∈ t, x.1.isRoutine = true) :
    exportsFrom day (t ++ rest) = exportsFrom day rest := by
  induction t with
  | nil => rfl
  | cons x t ih =>
    obtain ⟨hx, ht⟩ := List.forall_mem_cons.1 h
    obtain ⟨hfetched, hday⟩ := unfetched_of_isRoutine hx
    rw [List.cons_append, exportsFrom, hfetched, hday, ← ih ht]
    rfl

/-- All days that a transcript tells are dates of the calendar. -/
def TellsRealDays (t : Transcript) : Prop := ∀ x ∈ t, ∀ day ∈ dayTold? x, day.IsReal

instance (t : Transcript) : Decidable (TellsRealDays t) :=
  inferInstanceAs (Decidable (∀ x ∈ t, ∀ day ∈ dayTold? x, day.IsReal))

/-- An export to a folder under a name made of one of some labels and a date of the calendar. -/
def Export.IsNamed (folder prefFileName : String) (labels : String → Prop) (e : Export) : Prop :=
  ∃ label day, labels label ∧ day.IsReal ∧
    e = ⟨Path.join folder (exportFileName label day prefFileName), some label, some day⟩

/-- A transcript whose exports are so named, whatever is told before it and noted after it. -/
def ExportsNamed (folder prefFileName : String) (labels : String → Prop) (t : Transcript) : Prop :=
  TellsRealDays t → ∀ day rest, ∃ es day',
    exportsFrom day (t ++ rest) = es ++ exportsFrom day' rest ∧
      ∀ e ∈ es, e.IsNamed folder prefFileName labels

variable {folder prefFileName : String} {labels : String → Prop}

/-- A transcript in which nothing is fetched. -/
theorem ExportsNamed.of_unfetched (h : ∀ x ∈ t, fetchedTo? x = none) :
    ExportsNamed folder prefFileName labels t := by
  intro _ day rest
  obtain ⟨day', hday'⟩ : ∃ day', exportsFrom day (t ++ rest) = exportsFrom day' rest :=
    exportsFrom_append_unfetched h
  exact ⟨[], day', hday', nofun⟩

/-- Whole cycles are such transcripts if their exports are. -/
theorem composed_exportsNamed : Composed (ExportsNamed folder prefFileName labels) where
  nil := .of_unfetched nofun
  append t u ht hu := by
    intro hreal day rest
    obtain ⟨hrealt, hrealu⟩ := List.forall_mem_append.1 hreal
    obtain ⟨es, day', hes, hnamed⟩ := ht hrealt day (u ++ rest)
    obtain ⟨fs, day'', hfs, hnamed'⟩ := hu hrealu day' rest
    refine ⟨es ++ fs, day'', ?_, List.forall_mem_append.2 ⟨hnamed, hnamed'⟩⟩
    rw [List.append_assoc, hes, hfs, List.append_assoc]
  routine x hx := .of_unfetched (List.forall_mem_singleton.2 (unfetched_of_isRoutine hx).1)
  noted n := .of_unfetched (List.forall_mem_singleton.2 rfl)

/-- The exports of a whole transcript. -/
theorem ExportsNamed.exports (h : ExportsNamed folder prefFileName labels t)
    (hreal : TellsRealDays t) : ∀ e ∈ exports t, e.IsNamed folder prefFileName labels := by
  obtain ⟨es, day', hes, hnamed⟩ := h hreal none []
  have hall : Autoplay.exports t = es := by
    rw [Autoplay.exports, ← List.append_nil t, hes]
    exact List.append_nil es
  rwa [hall]

end

/-! ## An export and the look that leads to it -/

/-- The commands before the file is fetched. -/
def prepareExport (game : GameSettings) : Play Unit := do
  Stoppable.checkpoint
  privilegedOrFail ("cp '" ++ game.prefPath ++ "' '" ++ game.exportTempPath ++ "'")
  privilegedOrFail ("chmod 644 '" ++ game.exportTempPath ++ "'")

/-- Fetching the file, and the commands after it. -/
def fetchExport (game : GameSettings) (dest : String) : Play Unit := do
  let pulled ← Talk.command (.pull game.exportTempPath dest)
  let _ ← Talk.command (.privileged ("rm '" ++ game.exportTempPath ++ "'"))
  match pulled with
  | .ok () => pure ()
  | .error e => throw (.deviceUnreachable e)

/-- An export makes its folder, asks for the day, and then prepares and fetches the file. -/
theorem exportAccount_eq (ctx : Context) (folder label : String) :
    exportAccount ctx folder label = (do
      match ← Talk.ask (.makeFolders folder) with
      | .error e => throw (.export e)
      | .ok () =>
        let today ← Talk.ask .today
        prepareExport ctx.settings.game
        fetchExport ctx.settings.game
          (Path.join folder (exportFileName label today ctx.settings.game.prefFileName))) := by
  unfold exportAccount
  refine bind_congr fun made => ?_
  cases made with
  | error e => rfl
  | ok _ =>
    refine bind_congr fun today => ?_
    unfold prepareExport fetchExport
    simp only [bind_assoc]
    refine bind_congr fun _ => bind_congr fun _ => bind_congr fun _ => bind_congr fun pulled => ?_
    cases pulled <;> rfl

variable {game : GameSettings} {dest label : String} {t : Transcript}

/-- The preparation makes routine requests only. -/
theorem asks_prepareExport {P : Request → Prop} (hP : AllowsRoutine P) :
    (prepareExport game).run.Asks P := by
  have hprivileged (line : String) : (privilegedOrFail line).run.Asks P :=
    (hP.ask rfl).play.bind_except fun reply => by cases reply <;> exact trivial
  exact hP.checkpoint.inPlay.bind_except fun _ =>
    (hprivileged _).bind_except fun _ => hprivileged _

/-- How the fetching goes: the file is fetched or not, and the copy is removed. It is not broken
off, nor by a stop. -/
theorem goes_fetchExport {r : Except Breakdown (Except StepError Unit)}
    (h : (fetchExport game dest).run.Goes t r) :
    (∃ o, r = .ok o ∧ o ≠ .error .aborted) ∧ ∃ pulled removed,
      t = [⟨.command (.pull game.exportTempPath dest), pulled⟩,
        ⟨.command (.privileged ("rm '" ++ game.exportTempPath ++ "'")), removed⟩] := by
  obtain ⟨pulled, _, rfl, removed, _, rfl, h⟩ := h
  refine ⟨?_, pulled, removed, ?_⟩
  · cases pulled with
    | ok _ => exact ⟨.ok (), h.2, nofun⟩
    | error e => exact ⟨.error (.deviceUnreachable e), h.2, nofun⟩
  · cases pulled <;> rw [h.1]

/-- How an export goes: nothing is fetched, or a day is told and the file is fetched under a name
made of that day. A stop or a breakdown comes before anything is fetched. -/
theorem goes_exportAccount {ctx : Context} {folder label : String} {t : Transcript}
    {r : Except Breakdown (Except StepError Unit)}
    (h : (exportAccount ctx folder label).run.Goes t r) :
    (∀ x ∈ t, fetchedTo? x = none) ∨ (∃ o, r = .ok o ∧ o ≠ .error .aborted) ∧
      ∃ made today prepared pulled removed, (∀ x ∈ prepared, x.1.isRoutine = true) ∧
        t = ⟨.makeFolders folder, made⟩ :: ⟨.today, today⟩ :: (prepared ++
          [⟨.command (.pull ctx.settings.game.exportTempPath (Path.join folder
            (exportFileName label today ctx.settings.game.prefFileName))), pulled⟩,
          ⟨.command (.privileged ("rm '" ++ ctx.settings.game.exportTempPath ++ "'")),
            removed⟩]) := by
  have hprepare {prepared : Transcript} {r : Except Breakdown (Except StepError Unit)}
      (h : (prepareExport ctx.settings.game).run.Goes prepared r) :
      ∀ x ∈ prepared, x.1.isRoutine = true :=
    (asks_prepareExport allowsRoutine_isRoutine).of_goes h
  rw [exportAccount_eq] at h
  obtain ⟨made, u, rfl, h⟩ := h
  cases made with
  | error e =>
    obtain ⟨rfl, rfl⟩ := h
    exact .inl (List.forall_mem_singleton.2 rfl)
  | ok _ =>
    obtain ⟨today, v, rfl, h⟩ := h
    rcases Dialogue.goes_bind_run.1 h with ⟨_, prepared, w, rfl, hprepared, hfetch⟩ | hcut
    · obtain ⟨hr, pulled, removed, rfl⟩ := goes_fetchExport hfetch
      exact .inr ⟨hr, _, today, prepared, pulled, removed, hprepare hprepared, rfl⟩
    · -- The preparation came to nothing.
      have hroutine : ∀ x ∈ v, x.1.isRoutine = true := by
        obtain ⟨e, -, hcut⟩ | ⟨b, -, hcut⟩ := hcut
        all_goals exact hprepare hcut
      exact .inl (List.forall_mem_cons.2 ⟨rfl, List.forall_mem_cons.2
        ⟨rfl, fun x hx => (unfetched_of_isRoutine (hroutine x hx)).1⟩⟩)

/-- After an attempt the rest follows, unless it is stopped or broken off. -/
theorem goes_attempt_bind {α β : Type} {p : Play α} {f : Except StepError α → Play β}
    {r : Except Breakdown (Except StepError β)} (h : (Play.attempt p >>= f).run.Goes t r) :
    (∃ o t₁ t₂, t = t₁ ++ t₂ ∧ p.run.Goes t₁ (.ok o) ∧ (f o).run.Goes t₂ r) ∨
      ∃ o, p.run.Goes t o ∧ ∀ a, o = .ok a → a = .error .aborted := by
  rcases Dialogue.goes_bind_run.1 h with ⟨o, t₁, t₂, rfl, h₁, h₂⟩ | ⟨e, -, h₁⟩ | ⟨b, -, h₁⟩
  · -- A result is that of what was attempted.
    rcases goes_attempt h₁ with ⟨o', hp, ho | ⟨-, ho⟩⟩ | ⟨b, -, ho⟩
    · cases ho
      exact .inl ⟨o, t₁, t₂, rfl, hp, h₂⟩
    · cases ho
    · cases ho
  · rcases goes_attempt h₁ with ⟨o', hp, ho | ⟨rfl, -⟩⟩ | ⟨b, -, ho⟩
    · cases ho
    · exact .inr ⟨_, hp, fun a ha => (Except.ok.inj ha).symm⟩
    · cases ho
  · rcases goes_attempt h₁ with ⟨o', -, ho | ⟨-, ho⟩⟩ | ⟨b', hp, -⟩
    · cases ho
    · cases ho
    · exact .inr ⟨_, hp, nofun⟩

/-- An export and the note of its label. -/
theorem exportsNamed_export {ctx : Context} {folder label : String} {labels : String → Prop}
    (hlabel : labels label) {α : Type} (a : α) :
    (do
      let _ ← Play.attempt (exportAccount ctx folder label)
      Talk.note (.matched label)
      pure a : Play α).run.Makes
        (ExportsNamed folder ctx.settings.game.prefFileName labels) := by
  intro t r h
  rcases goes_attempt_bind h with ⟨o, t₁, t₂, rfl, hexport, hnote⟩ | ⟨o, hexport, hcut⟩
  · obtain ⟨_, _, rfl, rfl, -⟩ := hnote
    obtain hnone | ⟨-, made, today, prepared, pulled, removed, hroutine, rfl⟩ :=
      goes_exportAccount hexport
    · exact .of_unfetched (List.forall_mem_append.2 ⟨hnone, List.forall_mem_singleton.2 rfl⟩)
    intro hreal day rest
    have htoday : today.IsReal := hreal ⟨.today, today⟩ (by simp) today rfl
    let dest := Path.join folder (exportFileName label today ctx.settings.game.prefFileName)
    let fetched : Exchange Request Request.Answer :=
      ⟨.command (.pull ctx.settings.game.exportTempPath dest), pulled⟩
    refine ⟨(fetchedTo? fetched).toList.map (⟨·, some label, some today⟩), some today, ?_, ?_⟩
    · rw [List.append_assoc, List.cons_append, List.cons_append, List.append_assoc]
      exact exportsFrom_append_routine hroutine
    · intro e he
      obtain ⟨path, hpath, rfl⟩ := List.mem_map.1 he
      have hdest : path = dest := by
        cases pulled with
        | ok _ => exact List.mem_singleton.1 hpath
        | error _ => exact nomatch hpath
      exact ⟨label, today, hlabel, htoday, by rw [hdest]⟩
  · -- An export that is stopped or broken off has fetched nothing.
    obtain hnone | ⟨⟨a, rfl, ha⟩, -⟩ := goes_exportAccount hexport
    · exact .of_unfetched hnone
    · exact absurd (hcut a rfl) ha

/-- A name that is found is one of those that were looked for. -/
theorem Recognition.findName_mem {text name : String} {names : List String} {least : Float32}
    (h : findName text names least = some name) : name ∈ names := by
  unfold findName at h
  split at h
  · exact nomatch h
  · exact List.mem_of_find?_eq_some h

/-- A look at what was drawn exports under one of the wanted names. -/
theorem exportsNamed_gachaCheck (ctx : Context) {folder : String} {labels : String → Prop}
    (g : GachaCheck) (hfolder : ∀ f, g.exportFolder = some f → f = folder)
    (hlabels : ∀ label ∈ g.wanted, labels label) :
    (g.play ctx).run.Makes (ExportsNamed folder ctx.settings.game.prefFileName labels) := by
  have hC : Composed (ExportsNamed folder ctx.settings.game.prefFileName labels) :=
    composed_exportsNamed
  have hP := allowsRoutine_isRoutine
  -- Nothing is fetched unless one of the names is found and there is a folder to export to.
  unfold GachaCheck.play
  dsimp only
  split
  · exact hC.done _
  refine hC.bind (hC.ofAsks hP.capture.attempt) fun shot => ?_
  cases shot with
  | error e => exact hC.done _
  | ok screen =>
    refine hC.bind (hC.ofAsks (hP.readText _ _).play) fun text => ?_
    cases text with
    | none => exact hC.done _
    | some text =>
      dsimp only
      split
      · exact hC.done _
      next label hfound =>
      split
      next f hf =>
        rw [hfolder f hf]
        exact exportsNamed_export (hlabels label (Recognition.findName_mem hfound)) _
      next => exact hC.bind (hC.note _) fun _ => hC.done _

/-! ## The exports of many cycles -/

/-- A cycle of an account that was played, whatever was answered. -/
structure PlayedCycle where
  /-- Settings. -/
  settings : Settings
  /-- Path of the account file. -/
  account : String
  /-- Workflow, unless it is the claim routine. -/
  workflow : Option Workflow
  /-- The number of rounds that a loop without a fixed end may take. -/
  rounds : Nat
  /-- What was asked and answered. -/
  transcript : Transcript
  /-- How it ended. -/
  result : Except Breakdown AccountResult
  /-- It went so. -/
  goes : (settings.processAccount account workflow rounds).Goes transcript result

namespace PlayedCycle

/-- The looks at what was drawn that are steps of the workflow. -/
def Looks (c : PlayedCycle) (g : GachaCheck) : Prop :=
  ∃ w, c.workflow = some w ∧ ∃ step ∈ w.steps, step.action = .gachaCheck g

/-- The cycle exports to one folder, under names that end with that of one account file. The days
that it is told are dates of the calendar. -/
structure ExportsTo (c : PlayedCycle) (folder prefFileName : String) : Prop where
  /-- All looks of the workflow that export anything export to the folder. -/
  folder : ∀ g, c.Looks g → ∀ f, g.exportFolder = some f → f = folder
  /-- The name of the account file of the device. -/
  prefFileName : c.settings.game.prefFileName = prefFileName
  /-- The days are dates. -/
  days : TellsRealDays c.transcript

/-- The labels under which the cycle may export. -/
def Wants (c : PlayedCycle) (label : String) : Prop := ∃ g, c.Looks g ∧ label ∈ g.wanted

/-- The exports of a cycle are named after wanted names and dates. -/
theorem ExportsTo.isNamed {c : PlayedCycle} {folder prefFileName : String}
    (h : c.ExportsTo folder prefFileName) :
    ∀ e ∈ exports c.transcript, e.IsNamed folder prefFileName c.Wants := by
  have hgacha : ∀ w, c.workflow = some w → ∀ step ∈ w.steps, ∀ g, step.action = .gachaCheck g →
      (g.play ⟨w, c.settings, c.rounds⟩).run.Makes
        (ExportsNamed folder c.settings.game.prefFileName c.Wants) := by
    intro w hw step hstep g hg
    have hlooks : c.Looks g := ⟨w, hw, step, hstep, hg⟩
    exact exportsNamed_gachaCheck ⟨w, c.settings, c.rounds⟩ g (h.folder g hlooks)
      fun label hlabel => ⟨g, hlooks, hlabel⟩
  have hnamed := composed_exportsNamed.processAccount c.settings hgacha c.account _ _ c.goes
  rw [h.prefFileName] at hnamed
  exact hnamed.exports h.days

end PlayedCycle

/-- Exports that are named after labels and dates write to the same file just when both are the same
in the file name. -/
theorem Export.IsNamed.dest_eq_iff {folder prefFileName : String} {labels labels' : String → Prop}
    {e f : Export} (he : e.IsNamed folder prefFileName labels)
    (hf : f.IsNamed folder prefFileName labels') : e.dest = f.dest ↔ e.key = f.key := by
  obtain ⟨label, day, -, hday, rfl⟩ := he
  obtain ⟨label', day', -, hday', rfl⟩ := hf
  simp only [key, Option.map_some, Prod.mk.injEq, Option.some.injEq]
  constructor
  · intro hdest
    exact exportFileName_inj hday hday' (Path.join_inj (isAbsolute_exportFileName ..)
      (isAbsolute_exportFileName ..) hdest)
  · rintro ⟨hlabel, rfl⟩
    rw [exportFileName_congr hlabel]

/-- A function that tells no more elements of a list apart than another one has no more values
there. -/
theorem card_values_le {α β γ : Type} [DecidableEq β] [DecidableEq γ] {l : List α} {f : α → β}
    {g : α → γ} (h : ∀ a ∈ l, ∀ b ∈ l, f a = f b → g a = g b) :
    (l.map g).toFinset.card ≤ (l.map f).toFinset.card := by
  have hmem {δ : Type} [DecidableEq δ] {k : α → δ} {y : δ} :
      y ∈ (l.map k).toFinset ↔ ∃ a ∈ l, k a = y := by rw [List.mem_toFinset, List.mem_map]
  refine Finset.card_le_card_of_forall_subsingleton (fun y x => ∃ a ∈ l, g a = y ∧ f a = x) ?_ ?_
  · intro y hy
    obtain ⟨a, ha, hy⟩ := hmem.1 hy
    exact ⟨f a, hmem.2 ⟨a, ha, rfl⟩, a, ha, hy, rfl⟩
  · rintro x - _ ⟨-, a, ha, rfl, hfa⟩ _ ⟨-, b, hb, rfl, hfb⟩
    exact h a ha b hb (hfa.trans hfb.symm)

/-- Over any number of cycles that export to one folder, in whatever order and on whatever devices
they ran, every export was made under a wanted name and a date of the calendar. Two of them write to
the same file just when the names, with `_` for blanks and separators, and the dates are the same,
whatever accounts were exported; so there are as many files as there are such pairs. -/
theorem same_file_iff_same_label_and_day {folder prefFileName : String} {cycles : List PlayedCycle}
    (h : ∀ c ∈ cycles, c.ExportsTo folder prefFileName) :
    let made := cycles.flatMap fun c => exports c.transcript
    (∀ c ∈ cycles, ∀ e ∈ exports c.transcript, ∃ label day, c.Wants label ∧ day.IsReal ∧
        e = ⟨Path.join folder (exportFileName label day prefFileName), some label, some day⟩) ∧
      (∀ e ∈ made, ∀ f ∈ made, e.dest = f.dest ↔
        e.label.map fileLabel = f.label.map fileLabel ∧ e.day = f.day) ∧
      (made.map Export.dest).toFinset.card = (made.map Export.key).toFinset.card := by
  intro made
  have hiff : ∀ e ∈ made, ∀ f ∈ made, e.dest = f.dest ↔ e.key = f.key := by
    intro e he f hf
    obtain ⟨c, hc, he⟩ := List.mem_flatMap.1 he
    obtain ⟨c', hc', hf⟩ := List.mem_flatMap.1 hf
    exact ((h c hc).isNamed e he).dest_eq_iff ((h c' hc').isNamed f hf)
  refine ⟨fun c hc => (h c hc).isNamed, fun e he f hf => ?_, ?_⟩
  · rw [hiff e he f hf, Export.key, Export.key, Prod.mk.injEq]
  · -- Files and pairs tell the exports apart in the same way, so there are as many of both.
    exact le_antisymm (card_values_le fun e he f hf => (hiff e he f hf).2)
      (card_values_le fun e he f hf => (hiff e he f hf).1)

/-- Surroundings in which every command goes well, everything that is looked for is found, and a
name is read off every screen. -/
def drawing (name : String) : (q : Request) → Unit → q.Answer × Unit
  | .find .., _ => (.ok (some ⟨1, 1⟩), ())
  | .readText .., _ => (.ok name, ())
  | q, s => smooth q s

/-- A workflow that looks for two names, and exports the account when it finds one. -/
def saveDrawn : Workflow where
  steps := [{ action := .gachaCheck { targets := ["S", "T"], saveFolder := some "/out" } }]

/-- The cycle of an account with which a name is drawn. -/
def drawnCycle (account name : String) : PlayedCycle where
  settings := {}
  account := account
  workflow := some saveDrawn
  rounds := 2
  transcript :=
    (({} : Settings).processAccount account (some saveDrawn) 2).transcript (drawing name) ()
  result := ((({} : Settings).processAccount account (some saveDrawn) 2).run (drawing name) ()).1
  goes := Dialogue.goes_transcript ..

/-- It exports to the folder of the workflow, if the days that it is told are dates. -/
theorem exportsTo_drawnCycle {account name : String}
    (h : TellsRealDays (drawnCycle account name).transcript) :
    (drawnCycle account name).ExportsTo "/out" "_LINE_COCOS_PREF_KEY.xml" where
  folder := by
    rintro g ⟨w, hw, step, hstep, hg⟩ f hf
    cases hw
    obtain rfl := List.mem_singleton.1 hstep
    cases hg
    exact (Option.some.inj hf).symm
  prefFileName := by
    show ({} : Settings).game.prefFileName = _
    decide
  days := h

/-- Three accounts of which two drew the same name are exported to two files. -/
theorem three_exports_two_files :
    let cycles := [drawnCycle "/accounts/a.xml" "S", drawnCycle "/accounts/b.xml" "T",
      drawnCycle "/accounts/c.xml" "S"]
    let made := cycles.flatMap fun c => exports c.transcript
    (∀ c ∈ cycles, c.ExportsTo "/out" "_LINE_COCOS_PREF_KEY.xml") ∧ made.length = 3 ∧
      (made.map Export.dest).toFinset.card = (made.map Export.key).toFinset.card ∧
      made.map Export.key = [(some "S", some ⟨1970, 1, 1⟩), (some "T", some ⟨1970, 1, 1⟩),
        (some "S", some ⟨1970, 1, 1⟩)] := by
  intro cycles made
  have ha : (drawnCycle "/accounts/a.xml" "S").ExportsTo "/out" "_LINE_COCOS_PREF_KEY.xml" :=
    exportsTo_drawnCycle (by decide +kernel)
  have hb : (drawnCycle "/accounts/b.xml" "T").ExportsTo "/out" "_LINE_COCOS_PREF_KEY.xml" :=
    exportsTo_drawnCycle (by decide +kernel)
  have hc : (drawnCycle "/accounts/c.xml" "S").ExportsTo "/out" "_LINE_COCOS_PREF_KEY.xml" :=
    exportsTo_drawnCycle (by decide +kernel)
  have hcycles : ∀ c ∈ cycles, c.ExportsTo "/out" "_LINE_COCOS_PREF_KEY.xml" :=
    List.forall_mem_cons.2 ⟨ha, List.forall_mem_cons.2 ⟨hb, List.forall_mem_singleton.2 hc⟩⟩
  refine ⟨hcycles, ?_, (same_file_iff_same_label_and_day hcycles).2.2, ?_⟩
  all_goals decide +kernel

/-- Two accounts that draw the same name on the same day are exported to one file: the second export
replaces the first. -/
theorem export_replaces_another_account :
    let first := drawnCycle "/accounts/a.xml" "S"
    let second := drawnCycle "/accounts/b.xml" "S"
    let made := exports first.transcript ++ exports second.transcript
    first.account ≠ second.account ∧
      first.ExportsTo "/out" "_LINE_COCOS_PREF_KEY.xml" ∧
      second.ExportsTo "/out" "_LINE_COCOS_PREF_KEY.xml" ∧
      made.map Export.dest = ["/out/S_19700101__LINE_COCOS_PREF_KEY.xml",
        "/out/S_19700101__LINE_COCOS_PREF_KEY.xml"] ∧
      (made.map Export.dest).toFinset.card ≠ made.length := by
  intro first second made
  refine ⟨by decide, exportsTo_drawnCycle ?_, exportsTo_drawnCycle ?_, ?_, ?_⟩
  all_goals decide +kernel

end Autoplay
