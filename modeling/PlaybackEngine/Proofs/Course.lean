import PlaybackEngine.Proofs.PlayerConsistency

set_option autoImplicit false

/-!
# The course of a player

A run of a started player told as the list of its steps, the most recent first: each step with
the world before it, what it was (a command, a query or a signal handled, a piece of pending
work, a change of the host) and the world after it. Properties that speak of what happened
before (since a call paused the player, when it was a play command that started it) are stated
over courses. Every run has a course and every course is a run (`Course.exists_of_run`,
`Course.run`).
-/

namespace PlaybackEngine.Player

/-- What one step of a started player was. -/
inductive Occurrence where
  | command (c : Command)
  | query (q : Query)
  | signal (s : Signal)
  | work
  | host
  deriving DecidableEq

/-- One step of a started player, as `PlayerStep` takes it, with what it was. -/
inductive StepOf : Occurrence → World → World → Prop
  | command {w : World} (c : Command) (h : w.controller.recovered = none) :
      StepOf (.command c) w ((command c).run w).2
  | query {w : World} (q : Query) (h : w.controller.recovered = none) :
      StepOf (.query q) w ((query q).run w).2
  | signal {w : World} (s : Signal) (h : w.controller.recovered = none) :
      StepOf (.signal s) w ((signal s).run w).2
  | work {w : World} : StepOf .work w (settleOnce.run w).2
  | host {w w' : World} (hc : w'.controller = w.controller) (hp : w'.published = w.published) :
      StepOf .host w w'

theorem StepOf.step {o : Occurrence} {w w' : World} (h : StepOf o w w') : PlayerStep w w' := by
  cases h with
  | command c h => exact .command c h
  | query q h => exact .query q h
  | signal s h => exact .signal s h
  | work => exact .work
  | host hc hp => exact .host hc hp

theorem PlayerStep.exists_stepOf {w w' : World} (h : PlayerStep w w') : ∃ o, StepOf o w w' := by
  cases h with
  | command c h => exact ⟨_, .command c h⟩
  | query q h => exact ⟨_, .query q h⟩
  | signal s h => exact ⟨_, .signal s h⟩
  | work => exact ⟨_, .work⟩
  | host hc hp => exact ⟨_, .host hc hp⟩

/-- One step of a course. -/
structure Passage where
  before : World
  what : Occurrence
  after : World

/-- A started player's course, the most recent step first, and the world it is in. -/
inductive Course : List Passage → World → Prop
  | start (w : World) (s : Setup) (h : ((spawn s).run w).1 = .ok ()) :
      Course [] ((spawn s).run w).2
  | step {steps : List Passage} {w w' : World} {o : Occurrence} (h : Course steps w)
      (hs : StepOf o w w') : Course (⟨w, o, w'⟩ :: steps) w'

theorem Course.run {steps : List Passage} {w : World} (h : Course steps w) : PlayerRun w := by
  induction h with
  | start w s h => exact .start w s h
  | step _ hs ih => exact .step ih hs.step

theorem Course.exists_of_run {w : World} (h : PlayerRun w) : ∃ steps, Course steps w := by
  induction h with
  | start w s h => exact ⟨[], .start w s h⟩
  | step _ hs ih =>
    obtain ⟨steps, hc⟩ := ih
    obtain ⟨o, ho⟩ := hs.exists_stepOf
    exact ⟨_, .step hc ho⟩

/-- A step of a course was taken from where the course then stood. -/
theorem Course.earlier {newer older : List Passage} {x : Passage} {w : World}
    (h : Course (newer ++ x :: older) w) : Course older x.before ∧ StepOf x.what x.before x.after := by
  induction newer generalizing w with
  | nil =>
    cases h with
    | step h hs => exact ⟨h, hs⟩
  | cons y newer ih =>
    cases h with
    | step h _ => exact ih h

end PlaybackEngine.Player
