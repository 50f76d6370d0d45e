import Autoplay.Proofs.Account.Interruption

/-!
# What is left of a cycle that is told to stop

When the cycle of an account is told to stop, it may still give the command under way, or the rest
of a sequence that is given after a single check (`Remainder`). A dialogue winds up (`WindsUp`) if
this holds of it from every point on, so that it can be followed question by question without
knowing how it came to be there (`WindsUp.remainder`). The main statement,
`Settings.windsUp_processAccount`, says that the cycle does, since its transcripts are cautious.
-/

namespace Autoplay

variable {α : Type} {sequences : List Command → Prop}

/-- Commands that may be left: one at most, or a part of one of some sequences. -/
def Remainder (sequences : List Command → Prop) (cs : List Command) : Prop :=
  cs.length ≤ 1 ∨ ∃ whole, sequences whole ∧ cs <:+: whole

/-- A part of what may be left may be left. -/
theorem Remainder.initial {cs ds : List Command} (h : Remainder sequences cs) (hds : ds <+: cs) :
    Remainder sequences ds :=
  h.imp (Nat.le_trans hds.length_le) fun ⟨whole, hwhole, hcs⟩ =>
    ⟨whole, hwhole, hds.isInfix.trans hcs⟩

/-- Every check and every wait says that the run is to stop. -/
def Told (t : Transcript) : Prop := ∀ x ∈ t, x.1.asksStop = true → tellsStop x = true

/-- The last ones of the commands that are given after a check. -/
theorem Remainder.of_checked {cs whole rest : List Command} (hcs : cs <+: whole)
    (hwhole : whole.length = 1 ∨ sequences whole) (hrest : rest <:+ cs) :
    Remainder sequences rest := by
  refine hwhole.imp (fun hlength => ?_) fun hwhole =>
    ⟨whole, hwhole, hrest.isInfix.trans hcs.isInfix⟩
  have hle := hcs.length_le
  have hle' := hrest.length_le
  omega

/-- If a cautious transcript is told to stop from some point on, what it gives from there on is what
may be left. -/
theorem Cautious.given_told {t before after : Transcript} (h : Cautious sequences t)
    (ht : t = before ++ after) (htold : Told after) : Remainder sequences (given after) := by
  -- The cut falls before the first stretch of the transcript, into it, or behind it, where the
  -- rest of the transcript is cut.
  induction h generalizing before with
  | nil =>
    obtain ⟨-, rfl⟩ := List.append_eq_nil_iff.1 ht.symm
    exact .inl (Nat.zero_le 1)
  | @other q a t hq hcautious ih =>
    cases before with
    | nil =>
      subst ht
      rw [(Cautious.other a hq hcautious).given_eq_nil htold]
      exact .inl (Nat.zero_le 1)
    | cons x before =>
      obtain ⟨-, rfl⟩ := List.cons.inj ht
      exact ih rfl
  | @checked ns issued t cs whole hissued hcs hwhole hcautious ih =>
    cases before with
    | nil =>
      subst ht
      exact nomatch (List.forall_mem_cons.1 htold).1 rfl
    | cons x before =>
      obtain ⟨-, hrest⟩ := List.cons.inj ht
      rcases List.append_eq_append_iff.1 hrest with ⟨begun, rfl, hsplit⟩ | ⟨more, hmore, rfl⟩
      · rcases List.append_eq_append_iff.1 hsplit with ⟨later, rfl, rfl⟩ | ⟨left, rfl, rfl⟩
        · exact ih rfl
        · -- Some of the commands were given before.
          obtain ⟨first, second, rfl, -, hsecond⟩ :=
            List.map_eq_append_iff.1 (hissued.symm.trans List.map_append)
          have hnone : given t = [] := hcautious.given_eq_nil (List.forall_mem_append.1 htold).2
          rw [given_append, hnone, given_of_map hsecond.symm, List.append_nil]
          exact .of_checked hcs hwhole (List.suffix_append _ _)
      · -- None of them was.
        obtain ⟨-, htold⟩ := List.forall_mem_append.1 htold
        have hnone : given t = [] := hcautious.given_eq_nil (List.forall_mem_append.1 htold).2
        have hread : given more = [] := by
          have hall := given_readings ns
          rw [hmore, given_append] at hall
          exact (List.append_eq_nil_iff.1 hall).2
        rw [given_append, given_append, hread, hnone, given_of_map hissued, List.append_nil,
          List.nil_append]
        exact .of_checked hcs hwhole List.suffix_rfl

/-! ## Dialogues that wind up -/

/-- From every point of a dialogue on, if it is told to stop from there on, it gives what may be
left. -/
def WindsUp (sequences : List Command → Prop) : Talk α → Prop
  | .done _ => True
  | .halt _ => True
  | Dialogue.ask q next =>
    (∀ t r, (Dialogue.ask q next : Talk α).Goes t r → Told t → Remainder sequences (given t)) ∧
      ∀ a, WindsUp sequences (next a)

/-- A dialogue with cautious transcripts winds up. -/
theorem WindsUp.of_cautious {d : Talk α} (h : ∀ t r, d.Goes t r → Cautious sequences t) :
    WindsUp sequences d := by
  -- The same of the rest of a dialogue, whatever came before it.
  have hrest (d : Talk α) (before : Transcript)
      (h : ∀ t r, d.Goes t r → Cautious sequences (before ++ t)) : WindsUp sequences d := by
    induction d generalizing before with
    | done a => trivial
    | halt b => trivial
    | ask q next ih =>
      refine ⟨fun t r ht htold => (h t r ht).given_told rfl htold, fun a => ?_⟩
      refine ih a (before ++ [⟨q, a⟩]) fun t r ht => ?_
      rw [List.append_assoc]
      exact h _ r ⟨a, t, rfl, ht⟩
  exact hrest d [] h

/-- A dialogue that gives one command at most winds up. -/
theorem WindsUp.of_single {d : Talk α} (h : ∀ t r, d.Goes t r → (given t).length ≤ 1) :
    WindsUp sequences d := by
  induction d with
  | done a => trivial
  | halt b => trivial
  | ask q next ih =>
    refine ⟨fun t r ht _ => .inl (h t r ht), fun a => ih a fun t r ht => ?_⟩
    have hall := h (⟨q, a⟩ :: t) r ⟨a, t, rfl, ht⟩
    have hsub : (given t).length ≤ (given (⟨q, a⟩ :: t)).length := by
      rw [← List.singleton_append, given_append, List.length_append]
      exact Nat.le_add_left _ _
    exact Nat.le_trans hsub hall

/-! ## Following a dialogue that is told to stop -/

/-- What a dialogue gives first when it is told to stop from now on. -/
def GivesTold (d : Talk α) (cs : List Command) : Prop :=
  ∃ t r, d.Goes t r ∧ Told t ∧ cs <+: given t

/-- Surroundings in which every check says that the run is to stop. -/
def stopping : (q : Request) → Unit → q.Answer × Unit
  | .stopRequested, s => (true, s)
  | .pause _, s => (true, s)
  | q, s => smooth q s

/-- There they are told to stop. -/
theorem told_stopping (d : Talk α) : Told (d.transcript stopping ()) := by
  induction d with
  | done a => exact nofun
  | halt b => exact nofun
  | ask q next ih =>
    refine List.forall_mem_cons.2 ⟨fun hq => ?_, ih _⟩
    cases q with
    | stopRequested => rfl
    | pause length => rfl
    | _ => exact nomatch hq

namespace GivesTold

variable {d : Talk α} {cs : List Command}

/-- It may give nothing. -/
theorem nil (d : Talk α) : GivesTold d [] :=
  ⟨_, _, Dialogue.goes_transcript stopping d (), told_stopping d, List.nil_prefix⟩

/-- A question that is answered truthfully, and what follows. -/
theorem ask {q : Request} {next : q.Answer → Talk α} {a : q.Answer}
    (ha : q.asksStop = true → tellsStop ⟨q, a⟩ = true) (h : GivesTold (next a) cs) :
    GivesTold (Dialogue.ask q next) (q.command?.toList ++ cs) := by
  obtain ⟨t, r, ht, htold, hcs⟩ := h
  refine ⟨⟨q, a⟩ :: t, r, ⟨a, t, rfl, ht⟩, List.forall_mem_cons.2 ⟨ha, htold⟩, ?_⟩
  have hgiven : given (⟨q, a⟩ :: t) = q.command?.toList ++ given t := by
    cases q <;> rfl
  rw [hgiven]
  exact (List.prefix_append_right_inj _).2 hcs

/-- If it never gives commands, it gives nothing. -/
theorem eq_nil_of_asks (h : GivesTold d cs) (hd : d.Asks fun q => q.command? = none) : cs = [] := by
  obtain ⟨t, r, ht, -, hcs⟩ := h
  have hnone : given t = [] := by
    refine List.filterMap_eq_nil_iff.2 fun q hq => ?_
    obtain ⟨x, hx, rfl⟩ := List.mem_map.1 hq
    exact hd.of_goes ht x hx
  rw [hnone] at hcs
  exact List.prefix_nil.1 hcs

end GivesTold

/-- What a dialogue that winds up gives when it is told to stop is what may be left. -/
theorem WindsUp.remainder {d : Talk α} (h : WindsUp sequences d) {cs : List Command}
    (hcs : GivesTold d cs) : Remainder sequences cs := by
  obtain ⟨t, r, ht, htold, hprefix⟩ := hcs
  cases d with
  | done a =>
    obtain ⟨rfl, -⟩ := ht
    exact .inl (Nat.le_trans hprefix.length_le (Nat.zero_le 1))
  | halt b =>
    obtain ⟨rfl, -⟩ := ht
    exact .inl (Nat.le_trans hprefix.length_le (Nat.zero_le 1))
  | ask q next => exact (h.1 t r ht htold).initial hprefix

/-! ## The cycle -/

/-- The sequences of commands that are given after a single check: the copying of the account file,
and an export. -/
def Settings.Sequence (s : Settings) (whole : List Command) : Prop :=
  (∃ owner, whole = copyCommands s.game.pushTempPath s.game.prefPath owner) ∨
    ∃ dest, whole = s.game.exportCommands dest

/-- The processing of an account winds up. -/
theorem Settings.windsUp_processAccount (s : Settings) (account : String)
    (workflow : Option Workflow) (rounds : Nat) :
    WindsUp s.Sequence (s.processAccount account workflow rounds) := by
  have horderly : Orderly (fun _ => True) s.Sequence (s.processAccount account workflow rounds) :=
    s.orderly_processAccount workflow rounds (fun _ => trivial) (fun dest => .inr ⟨dest, rfl⟩)
      (fun owner => .inl ⟨owner, rfl⟩) account
  exact .of_cautious fun _ _ ht => horderly.cautious ht

end Autoplay
