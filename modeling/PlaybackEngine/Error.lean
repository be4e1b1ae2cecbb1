/-!
# Errors

The faults the engine reports, by cause. Host capabilities fail with a `HostError`; the cache,
download and player layers with a `PlaybackError`, which may wrap a host error; building and
checking the engine's configuration with a `SetupError`. Each has one function for its text.

Two classifications steer recovery. A fault is *transient* when trying again later may
succeed: a network fault, or an I/O fault of a broken or timed-out connection. It is a *storage*
fault when the cache cannot hold the song: no medium, no space, or a media type with no file
extension.
-/

set_option autoImplicit false

namespace PlaybackEngine

/-- The kind of an I/O fault, as the operating system classifies it. -/
inductive IoKind where
  | notFound
  | permissionDenied
  | connectionReset
  | connectionAborted
  | timedOut
  | unexpectedEof
  | brokenPipe
  | alreadyExists
  | notADirectory
  | isADirectory
  | directoryNotEmpty
  | invalidInput
  | invalidFilename
  | filesystemLoop
  | resourceBusy
  | other
  deriving DecidableEq, Repr, Inhabited

/-- The name of an I/O fault's kind. -/
def IoKind.name : IoKind → String
  | .notFound => "NotFound"
  | .permissionDenied => "PermissionDenied"
  | .connectionReset => "ConnectionReset"
  | .connectionAborted => "ConnectionAborted"
  | .timedOut => "TimedOut"
  | .unexpectedEof => "UnexpectedEof"
  | .brokenPipe => "BrokenPipe"
  | .alreadyExists => "AlreadyExists"
  | .notADirectory => "NotADirectory"
  | .isADirectory => "IsADirectory"
  | .directoryNotEmpty => "DirectoryNotEmpty"
  | .invalidInput => "InvalidInput"
  | .invalidFilename => "InvalidFilename"
  | .filesystemLoop => "FilesystemLoop"
  | .resourceBusy => "ResourceBusy"
  | .other => "Other"

/-- An I/O fault: its kind and its text. -/
structure IoFault where
  kind : IoKind
  text : String
  deriving DecidableEq, Repr, Inhabited

/-- Whether an I/O fault is of a connection that broke or timed out. -/
def IoKind.isConnectionLoss : IoKind → Bool
  | .connectionReset | .connectionAborted | .timedOut | .unexpectedEof => true
  | _ => false

/-- A fault of a host capability (storage, transport, telephony, network, wake lock). -/
inductive HostError where
  | notAvailable (what : String)
  | operationFailed (what : String)
  | http (status : Nat) (text : String)
  | network (what : String)
  | io (fault : IoFault)
  deriving DecidableEq, Repr, Inhabited

namespace HostError

/-- The text of a host fault. -/
def message : HostError → String
  | .notAvailable m => s!"Bridge capability not available: {m}"
  | .operationFailed m => s!"Bridge operation failed: {m}"
  | .http s m => s!"HTTP status {s}: {m}"
  | .network m => s!"Network error: {m}"
  | .io f => s!"IO error: {f.text}"

/-- A network fault, or an I/O fault of a lost connection, may pass. -/
def isTransient : HostError → Bool
  | .network _ => true
  | .io f => f.kind.isConnectionLoss
  | _ => false

end HostError

/-- A fault of the cache, the downloads or the player. -/
inductive PlaybackError where
  | noStorageMedium
  | outOfSpace (requested available : Nat)
  | unknownMimeType (mime : String)
  | transientNetwork (what : String)
  | permanentHttp (status : Nat)
  | sizeMismatch (expected actual : Nat)
  | decode (what : String)
  | trackNotFound (track : Int)
  | corruptState (what : String)
  | engineStopped
  | host (e : HostError)
  | io (fault : IoFault)
  | internal (what : String)
  deriving DecidableEq, Repr, Inhabited

namespace PlaybackError

/-- The text of a playback fault. -/
def message : PlaybackError → String
  | .noStorageMedium => "No storage medium available"
  | .outOfSpace r a => s!"Out of cache space: requested {r} bytes, {a} available"
  | .unknownMimeType m => s!"Unknown mime type: {m}"
  | .transientNetwork m => s!"Transient network error: {m}"
  | .permanentHttp s => s!"HTTP error {s}"
  | .sizeMismatch e a => s!"Size mismatch: expected {e} bytes, got {a}"
  | .decode m => s!"Decode error: {m}"
  | .trackNotFound t => s!"Track not found: {t}"
  | .corruptState m => s!"Corrupt state file: {m}"
  | .engineStopped => "Playback engine stopped"
  | .host e => s!"Bridge error: {e.message}"
  | .io f => s!"I/O error: {f.text}"
  | .internal m => s!"Internal error: {m}"

/-- The name of the kind of fault, as answers report it. -/
def kindName : PlaybackError → String
  | .noStorageMedium => "NoStorageMedium"
  | .outOfSpace .. => "OutOfSpace"
  | .unknownMimeType _ => "UnknownMimeType"
  | .transientNetwork _ => "TransientNetwork"
  | .permanentHttp _ => "PermanentHttp"
  | .sizeMismatch .. => "SizeMismatch"
  | .decode _ => "Decode"
  | .trackNotFound _ => "TrackNotFound"
  | .corruptState _ => "CorruptState"
  | .engineStopped => "EngineStopped"
  | .host _ => "Bridge"
  | .io _ => "Io"
  | .internal _ => "Internal"

/-- A fault that may pass if tried again. -/
def isTransient : PlaybackError → Bool
  | .transientNetwork _ => true
  | .host e => e.isTransient
  | _ => false

/-- A fault of the cache's storage. -/
def isStorageError : PlaybackError → Bool
  | .noStorageMedium | .outOfSpace .. | .unknownMimeType _ => true
  | _ => false

end PlaybackError

/-- A fault of building or checking the engine's configuration. -/
inductive SetupError where
  | config (what : String)
  | capabilityMissing (capability what : String)
  | internal (what : String)
  deriving DecidableEq, Repr, Inhabited

namespace SetupError

/-- The text of a setup fault. -/
def message : SetupError → String
  | .config m => s!"Configuration error: {m}"
  | .capabilityMissing c m => s!"Capability missing: {c} - {m}"
  | .internal m => s!"Internal error: {m}"

/-- The name of the kind of fault, as answers report it. -/
def kindName : SetupError → String
  | .config _ => "Config"
  | .capabilityMissing .. => "CapabilityMissing"
  | .internal _ => "Internal"

end SetupError

end PlaybackEngine
