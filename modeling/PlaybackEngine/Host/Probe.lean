import PlaybackEngine.Host.Network

/-!
# A probing network monitor

A monitor that judges connectivity by one connection attempt to a probe address: connected if
it succeeds, disconnected otherwise, with the link kind `other` when connected (a probe cannot
tell one link from another) and never metered.

Its change stream polls: each poll waits the poll interval and probes, and yields the report
when its status differs from the last one yielded; the first poll always yields. Waiting a
while for the next report sees `wait / interval` polls; since the probe's answer does not change
while nobody opens or closes the probe address, only the first of them can yield.
-/

set_option autoImplicit false

namespace PlaybackEngine

/-- A probing monitor: its poll interval in milliseconds, whether the probe address accepts
connections, and its change stream, if one was opened, with the last status it yielded. -/
structure ProbeMonitor where
  pollMs : Nat
  reachable : Bool
  stream : Option (Option NetworkStatus) := none
  deriving Repr

namespace ProbeMonitor

/-- The report of one probe. -/
def info (m : ProbeMonitor) : NetworkInfo :=
  if m.reachable then { status := .connected, networkType := some .other }
  else { status := .disconnected }

/-- Opens a change stream, replacing any earlier one. -/
def subscribe (m : ProbeMonitor) : ProbeMonitor := { m with stream := some none }

/-- Waits up to `waitMs` for the stream's next report: the report, if a poll yielded one in
time. A monitor without a stream yields nothing. -/
def next (m : ProbeMonitor) (waitMs : Nat) : Option NetworkInfo × ProbeMonitor :=
  match m.stream with
  | none => (none, m)
  | some last =>
    let report := m.info
    if waitMs ≥ m.pollMs ∧ last ≠ some report.status then
      (some report, { m with stream := some (some report.status) })
    else (none, m)

end ProbeMonitor

end PlaybackEngine
