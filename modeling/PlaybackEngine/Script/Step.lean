import PlaybackEngine.Script.Request

/-!
# Scenario steps

A scenario runs steps against a state. A step reads its arguments first; a step that cannot be
read, or that names something the scenario does not hold, fails with a fault and leaves the
state as it was. Faults of the engine itself are results, not failures of the step.
-/

set_option autoImplicit false

namespace PlaybackEngine.Script

/-- Why a step could not run. -/
inductive StepFault where
  | request (f : RequestFault)
  | other (kind message : String)
  /-- The run cannot go on: a library the engine builds on found its invariant broken. The
  whole scenario answers the panic. -/
  | halt (message : String)

/-- The answer for a step fault. -/
def StepFault.answer : StepFault → Json
  | .request f => f.answer
  | .other kind message => failure kind message
  | .halt message => failure "Panic" message

/-- A step's work on a state `σ`. -/
abbrev Step (σ α : Type) := StateT σ (Except StepFault) α

/-- Reads part of a step's request. -/
def readStep {σ α : Type} (r : Read α) : Step σ α :=
  match r with
  | .ok v => pure v
  | .error f => throw (.request f)

/-- Fails a step with a request fault. -/
def refuse {σ α : Type} (f : RequestFault) : Step σ α := throw (.request f)

/-- Runs a step: its result and the state after it, or the fault's answer and the state
before it. -/
def runStep {σ : Type} (s : σ) (step : Step σ Json) : Json × σ :=
  match step.run s with
  | .ok (r, s') => (r, s')
  | .error f => (f.answer, s)

/-- Runs a step like `runStep`, but a halt ends the run with the panic's message. -/
def runStepOrHalt {σ : Type} (s : σ) (step : Step σ Json) : Except String (Json × σ) :=
  match step.run s with
  | .ok (r, s') => .ok (r, s')
  | .error (.halt m) => .error m
  | .error f => .ok (f.answer, s)

end PlaybackEngine.Script
