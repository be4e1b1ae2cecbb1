/-!
# Network state

What the host reports about its network: whether it is connected, over which kind of link if
known, and whether the link is metered. Only a connected status counts as connected.
-/

set_option autoImplicit false

namespace PlaybackEngine

/-- The kind of network link. -/
inductive NetworkType where
  | cellular
  | wifi
  | ethernet
  | other
  deriving DecidableEq, Repr, Inhabited

/-- The diagnostic name of a link kind. -/
def NetworkType.debugText : NetworkType → String
  | .cellular => "Cellular"
  | .wifi => "WiFi"
  | .ethernet => "Ethernet"
  | .other => "Other"

/-- Whether the host is online. -/
inductive NetworkStatus where
  | connected
  | disconnected
  | indeterminate
  deriving DecidableEq, Repr, Inhabited

/-- The diagnostic name of a status. -/
def NetworkStatus.debugText : NetworkStatus → String
  | .connected => "Connected"
  | .disconnected => "Disconnected"
  | .indeterminate => "Indeterminate"

/-- A report on the network. -/
structure NetworkInfo where
  status : NetworkStatus
  networkType : Option NetworkType := none
  metered : Bool := false
  deriving DecidableEq, Repr, Inhabited

/-- Whether a report says the host is connected. -/
def NetworkInfo.isConnected (i : NetworkInfo) : Bool := i.status == .connected

/-- The diagnostic form of an optional link kind. -/
def networkTypeDebug : Option NetworkType → String
  | some t => s!"Some({t.debugText})"
  | none => "None"

/-- The name of a status. -/
def NetworkStatus.lowerName : NetworkStatus → String
  | .connected => "connected"
  | .disconnected => "disconnected"
  | .indeterminate => "indeterminate"

/-- The name of a link kind. -/
def NetworkType.lowerName : NetworkType → String
  | .cellular => "cellular"
  | .wifi => "wifi"
  | .ethernet => "ethernet"
  | .other => "other"

end PlaybackEngine
