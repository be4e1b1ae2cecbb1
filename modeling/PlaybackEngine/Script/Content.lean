import PlaybackEngine.Error
import PlaybackEngine.Script.Request
import PlaybackEngine.Script.Hex
import PlaybackEngine.Text.Utf8

/-!
# Bytes and host faults in requests and answers

Requests give bytes as `text` (its UTF-8 bytes) or as `hex`, never both. Answers show bytes as
`text` when they are UTF-8 and as `hex` otherwise, and a host fault as its kind and text, with
the kind of an I/O fault besides.
-/

set_option autoImplicit false

namespace PlaybackEngine.Script

/-- The bytes a request gives as `text` or `hex`; none when it gives neither. -/
def contentOf (step : Json) : Read (List UInt8) :=
  match step.given? "text", step.given? "hex" with
  | some _, some _ => throw (.invalid "give text or hex, not both")
  | some (.str s), none => pure (Text.encodeUtf8 s)
  | some _, none => throw (.invalid "text must be a string")
  | none, some (.str h) =>
    match bytesOfHex h with
    | some b => pure b
    | none => throw (.invalid "hex must be an even number of hex digits")
  | none, some _ => throw (.invalid "hex must be a string")
  | none, none => pure []

/-- Bytes as an answer: text when they are UTF-8, else hex. -/
def bytesJson (bytes : List UInt8) : Json :=
  match Text.decodeUtf8? bytes with
  | some s => .obj [("text", .str s)]
  | none => .obj [("hex", .str (hexOfBytes bytes))]

/-- A host fault as an answer. -/
def hostErrorJson (e : HostError) : Json :=
  match e with
  | .notAvailable _ => failure "NotAvailable" e.message
  | .operationFailed _ => failure "OperationFailed" e.message
  | .http .. => failure "Http" e.message
  | .network _ => failure "Network" e.message
  | .io f => .obj [("error", .str "Io"), ("io_kind", .str f.kind.name), ("message", .str e.message)]

end PlaybackEngine.Script
