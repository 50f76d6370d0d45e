import Autoplay.Proofs.Dialogue.Rules
import Autoplay.Run.Program

/-!
# More rounds

The rounds of a context bound the loops that have no end of their own, and nothing else: with more
rounds a run asks the same and ends the same, unless it had used them up. The main statement is
`within_play`.
-/

namespace Autoplay

open Dialogue (Within)

variable {α : Type}

/-- A part of a step with fewer rounds and with more. -/
abbrev PlayWithin (p p' : Play α) : Prop := Within p.run p'.run

/-- What may fail, with fewer rounds and with more. -/
theorem PlayWithin.attempt {p p' : Play α} (h : PlayWithin p p') :
    PlayWithin (Play.attempt p) (Play.attempt p') :=
  h.bind fun _ => .refl _

section

variable {w : Workflow} {settings : Settings} {rounds rounds' : Nat} (hle : rounds ≤ rounds')

/-- Taps do not depend on the rounds. -/
theorem tapAll_rounds (gap : Bool) (ps : List Point) :
    tapAll ⟨w, settings, rounds⟩ gap ps = tapAll ⟨w, settings, rounds'⟩ gap ps := by
  induction ps generalizing gap with
  | nil => rfl
  | cons p rest ih =>
    unfold tapAll
    rw [ih]

/-- Neither do taps on a template for as long as it turns up. -/
theorem loopClick_look_rounds (s : LoopClick) (looks misses : Nat) :
    s.look ⟨w, settings, rounds⟩ looks misses = s.look ⟨w, settings, rounds'⟩ looks misses := by
  induction looks generalizing misses with
  | zero => rfl
  | succ looks ih =>
    unfold LoopClick.look
    simp only [ih]
    rfl

/-- The looks of a search. -/
theorem within_search_look (s : TemplateSearch) (all : Bool) (limits : TemplateSearch.Limits)
    (n n' : Nat) (attempts : UInt32) (hn : n ≤ n') :
    PlayWithin (s.look ⟨w, settings, rounds⟩ all limits n attempts)
      (s.look ⟨w, settings, rounds'⟩ all limits n' attempts) := by
  induction n generalizing n' attempts with
  | zero => exact .out _
  | succ n ih =>
    obtain ⟨n', rfl⟩ : ∃ k, n' = k + 1 := ⟨n' - 1, by omega⟩
    -- The looks that follow a wait have a round less.
    have hagain (k : UInt32) : PlayWithin (do
        Stoppable.pause limits.interval
        s.look ⟨w, settings, rounds⟩ all limits n k : Play _) (do
        Stoppable.pause limits.interval
        s.look ⟨w, settings, rounds'⟩ all limits n' k) :=
      Within.bind_except (.refl _) fun _ => ih n' k (Nat.le_of_succ_le_succ hn)
    unfold TemplateSearch.look
    refine Within.bind_except (.refl _) fun now => ?_
    dsimp only
    split
    · exact .refl _
    split
    · exact .refl _
    refine Within.bind_except (.refl _) fun shot => ?_
    cases shot with
    | error e => exact hagain _
    | ok screen =>
      refine Within.bind_except (.refl _) fun found => ?_
      split
      · exact hagain _
      · rw [tapAll_rounds]
        exact .refl _

include hle

/-- A search. -/
theorem within_search (s : TemplateSearch) (all : Bool) :
    PlayWithin (s.play ⟨w, settings, rounds⟩ all) (s.play ⟨w, settings, rounds'⟩ all) := by
  refine Within.bind_except (.refl _) fun wait => ?_
  refine Within.bind_except (.refl _) fun interval => ?_
  refine Within.bind_except (.refl _) fun started => ?_
  exact (within_search_look s all _ _ _ _ hle).bind_except fun _ => .refl _

/-- The looks for a colour. -/
theorem within_colorWait_look (s : ColorWait) (bgr : UInt8 × UInt8 × UInt8) (started : Nat)
    (wait interval : Duration) :
    PlayWithin (s.look bgr started wait interval rounds)
      (s.look bgr started wait interval rounds') := by
  induction rounds generalizing rounds' with
  | zero => exact .out _
  | succ n ih =>
    obtain ⟨n', rfl⟩ : ∃ k, rounds' = k + 1 := ⟨rounds' - 1, by omega⟩
    have hagain : PlayWithin (do
        Stoppable.pause interval
        s.look bgr started wait interval n : Play _) (do
        Stoppable.pause interval
        s.look bgr started wait interval n') :=
      Within.bind_except (.refl _) fun _ => ih (Nat.le_of_succ_le_succ hle)
    unfold ColorWait.look
    refine Within.bind_except (.refl _) fun now => ?_
    dsimp only
    split
    · exact .refl _
    refine Within.bind_except (.refl _) fun shot => ?_
    cases shot with
    | error e => exact hagain
    | ok screen =>
      dsimp only
      split
      · exact .refl _
      · exact .refl _
      · exact hagain

/-- The wait for a colour. -/
theorem within_colorWait (s : ColorWait) :
    PlayWithin (s.play ⟨w, settings, rounds⟩) (s.play ⟨w, settings, rounds'⟩) := by
  unfold ColorWait.play
  split
  · exact .refl _
  refine Within.bind_except (.refl _) fun wait => ?_
  refine Within.bind_except (.refl _) fun interval => ?_
  refine Within.bind_except (.refl _) fun started => ?_
  exact (within_colorWait_look hle s _ _ _ _).bind_except fun _ => .refl _

/-- An action that is not the repetition of a group. -/
theorem within_playSingle (index : Nat) (a : Action) :
    PlayWithin (a.playSingle ⟨w, settings, rounds⟩ index)
      (a.playSingle ⟨w, settings, rounds'⟩ index) := by
  cases a with
  | imageMatch s => exact within_search hle s _
  | findAllClick s => exact within_search hle s _
  | waitForColor s => exact within_colorWait hle s
  | loopClick s =>
    refine Within.bind_except ?_ fun _ => .refl _
    rw [loopClick_look_rounds]
    exact .refl _
  | _ => exact .refl _

/-- A pass of a group. -/
theorem within_pass (members : List (Nat × Step)) :
    PlayWithin (RepeatGroup.pass ⟨w, settings, rounds⟩ members)
      (RepeatGroup.pass ⟨w, settings, rounds'⟩ members) := by
  induction members with
  | nil => exact .refl _
  | cons m rest ih =>
    refine Within.bind_except (.refl _) fun _ => ?_
    refine (within_playSingle hle m.1 m.2.action).attempt.bind_except fun r => ?_
    split
    · exact .refl _
    · exact ih

/-- The passes of a group. -/
theorem within_passes (s : RepeatGroup) (members : List (Nat × Step)) (n : Nat) :
    PlayWithin (s.passes ⟨w, settings, rounds⟩ members n)
      (s.passes ⟨w, settings, rounds'⟩ members n) := by
  induction n with
  | zero => exact .refl _
  | succ n ih =>
    unfold RepeatGroup.passes
    refine Within.bind_except (.refl _) fun _ => ?_
    refine (within_pass hle members).bind_except fun hit => ?_
    split
    · exact .refl _
    refine Within.bind_except (.refl _) fun seen => ?_
    split
    · exact .refl _
    · exact ih

/-- An action. -/
theorem within_action (index : Nat) (a : Action) :
    PlayWithin (a.play ⟨w, settings, rounds⟩ index) (a.play ⟨w, settings, rounds'⟩ index) := by
  unfold Action.play
  split
  next s =>
    unfold RepeatGroup.play
    dsimp only
    split
    · exact .throw_bind _ _ _
    split
    · exact .throw_bind _ _ _
    · exact (within_passes hle s _ _).bind_except fun _ => .refl _
  · exact within_playSingle hle index a

/-- The run from a position on. -/
theorem within_playFrom (n n' index executed : Nat) (hn : n ≤ n') :
    Within (Context.playFrom ⟨w, settings, rounds⟩ n index executed)
      (Context.playFrom ⟨w, settings, rounds'⟩ n' index executed) := by
  induction n generalizing n' index executed with
  | zero => exact .out _
  | succ n ih =>
    obtain ⟨n', rfl⟩ : ∃ k, n' = k + 1 := ⟨n' - 1, by omega⟩
    -- What follows the step has a round less, with fewer rounds and with more.
    have hrest (index executed : Nat) := ih n' index executed (Nat.le_of_succ_le_succ hn)
    unfold Context.playFrom
    dsimp only
    split
    · exact .refl _
    next s _ =>
      refine Within.bind (.refl _) fun stop => ?_
      split
      · exact .refl _
      split
      · exact hrest _ _
      refine Within.bind ?_ fun r => ?_
      · exact Within.bind (.refl _) fun _ =>
          (within_action hle index s.action).bind fun _ => .refl _
      · split
        · exact hrest _ _
        · exact .refl _

/-- A run with more rounds is the same, unless it had used them up. -/
theorem within_play :
    Within (Context.play ⟨w, settings, rounds⟩) (Context.play ⟨w, settings, rounds'⟩) :=
  within_playFrom hle _ _ 0 0 hle

end

end Autoplay
