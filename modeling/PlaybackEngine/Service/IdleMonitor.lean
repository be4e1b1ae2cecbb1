import PlaybackEngine.Player.PlayState

/-!
# The idle monitor

The service asks to be shut down once it has been idle for a delay: no client connected and
the player neither playing nor preparing. The monitor watches the client count and the
player's published state. Whenever it looks, an idle engine without a deadline gets one, the
delay from now, and an engine that is no longer idle loses its deadline; an engine that stays
idle keeps the deadline it has. When the deadline comes, the monitor asks for the shutdown and
ends.

If the player stops, the monitor loses the player's state and goes on with the last state it
saw. The service's own shutdown ends the monitor.
-/

set_option autoImplicit false

namespace PlaybackEngine.Service

/-- The idle monitor: whether it runs, whether it still sees the player's state, the last
state seen, the deadline, and whether it has asked for the shutdown. -/
structure IdleMonitor where
  active : Bool := true
  statesOpen : Bool := true
  seen : PlayState := .stopped
  deadline : Option Nat := none
  fired : Bool := false
  deriving DecidableEq, Repr, Inhabited

namespace IdleMonitor

/-- Whether the engine is idle with `clients` clients and the state seen. -/
def idle (m : IdleMonitor) (clients : Nat) : Bool := clients == 0 && !m.seen.isPlaying

/-- Looks at the engine at time `now`: arms the deadline of an idle engine that has none,
and drops that of a busy one. -/
def review (m : IdleMonitor) (clients now delay : Nat) : IdleMonitor :=
  if !m.active then m
  else
    match m.idle clients, m.deadline with
    | true, none => { m with deadline := some (now + delay) }
    | false, some _ => { m with deadline := none }
    | _, _ => m

/-- Sees a newly published state, if it still watches the player. -/
def see (m : IdleMonitor) (s : PlayState) (clients now delay : Nat) : IdleMonitor :=
  if m.active && m.statesOpen then ({ m with seen := s }).review clients now delay else m

/-- The deadline, if it comes by time `target`. -/
def dueBy (m : IdleMonitor) (target : Nat) : Option Nat :=
  match m.deadline with
  | some d => if m.active && d ≤ target then some d else none
  | none => none

end IdleMonitor

end PlaybackEngine.Service
