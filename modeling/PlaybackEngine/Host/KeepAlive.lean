import PlaybackEngine.Error

/-!
# Keeping the host awake

The host's keep-alive holds the process awake while the engine runs. Taking and giving it back
can each be made to fail; each success is counted.
-/

set_option autoImplicit false

namespace PlaybackEngine

/-- The keep-alive: whether it is held, how often it was taken and given back, and which of
the two fail. -/
structure KeepAlive where
  held : Bool := false
  acquired : Nat := 0
  released : Nat := 0
  failAcquire : Bool := false
  failRelease : Bool := false
  deriving DecidableEq, Repr, Inhabited

namespace KeepAlive

/-- Takes the keep-alive. -/
def acquire (k : KeepAlive) : Except HostError KeepAlive :=
  if k.failAcquire then .error (.notAvailable "fake keep-alive refused")
  else .ok { k with held := true, acquired := k.acquired + 1 }

/-- Gives the keep-alive back. -/
def release (k : KeepAlive) : Except HostError KeepAlive :=
  if k.failRelease then .error (.operationFailed "fake keep-alive release failure")
  else .ok { k with held := false, released := k.released + 1 }

end KeepAlive

end PlaybackEngine
