import PlaybackEngine.Host.Http
import PlaybackEngine.Script.Content

/-!
# HTTP scenarios

An HTTP scenario describes a one-shot server on the scenario's host (a server of byte ranges,
or one that writes a given status, headers and body) and asks the transport for a URL from an
offset: the server's own URL, the same on an address nobody listens on, text that is not a URL, no
text, or the server's address under another scheme.

The host accepts no connection attempts, so no request ever reaches the server: the answer
shows no request, and the transport fails as it does for a server it cannot reach.

A request's fields are checked in this order: the offset, the path, the URL, the server (a raw
server's body before its status), and the connect timeout, a whole number of milliseconds.
-/

set_option autoImplicit false

namespace PlaybackEngine.Script

/-- The URL a scenario asks for. -/
inductive UrlChoice where
  | server
  | closed
  | invalid
  | empty
  | scheme
  deriving DecidableEq, Repr

/-- The URL a request names. -/
def urlChoiceOf : String → Read UrlChoice
  | "server" => pure .server
  | "closed" => pure .closed
  | "invalid" => pure .invalid
  | "empty" => pure .empty
  | "scheme" => pure .scheme
  | _ => throw (.invalid "url must be server, closed, invalid, empty or scheme")

/-- The server a request describes; only its well-formedness matters here. -/
def checkServer (server : Json) : Read Unit := do
  match ← withDefault stringValue server "mode" "range" with
  | "range" => discard (contentOf server)
  | "raw" =>
    discard (contentOf server)
    discard (required stringValue server "status")
    let headers ← withDefault arrayValue server "headers" []
    for h in headers do
      match h with
      | .arr [.str _, .str _] => pure ()
      | _ => throw (.invalid "headers are [name, value] pairs")
    match server.field? "content_length" with
    | none | some .null => pure ()
    | some v =>
      match asUnsigned? v with
      | some _ => pure ()
      | none => throw (.invalid "content_length must be a number or null")
  | _ => throw (.invalid "server mode must be range or raw")

/-- Whether a path can be asked for: it starts with `/` and holds no blanks. -/
def askablePath (p : String) : Bool := p.startsWith "/" && !p.toList.any Text.isBlank

/-- The outcome of asking for a URL on a host that lets no connection through. -/
def fetchOutcome (url : UrlChoice) (path : String) : Except HostError Http.Opened :=
  match url with
  | .invalid | .empty => .error Http.malformedUrl
  | .scheme => .error (Http.unsupportedScheme ("ftp://127.0.0.1:1" ++ Http.pathQueryFragment path))
  | .server | .closed => .error (Http.unreachable ("http://127.0.0.1:PORT" ++ Http.pathQueryFragment path))

/-- The answer to an HTTP scenario. -/
def httpAnswer (req : Json) : Read Json := do
  discard (withDefault unsignedValue req "offset" 0)
  let path ← withDefault stringValue req "path" "/track"
  if !askablePath path then throw (.invalid "path must start with / and hold no spaces")
  let url ← urlChoiceOf (← withDefault stringValue req "url" "server")
  checkServer ((req.given? "server").getD (.obj []))
  match req.given? "connect_timeout_ms" with
  | none => pure ()
  | some v =>
    if (asUnsigned? v).isNone then throw (.invalid "connect_timeout_ms must be a number")
  let response := match fetchOutcome url path with
    | .ok o => .obj [("resumed_from", Json.nat o.resumedFrom),
        ("total_length", Json.opt Json.nat o.totalLength)]
    | .error e => hostErrorJson e
  pure (.obj [("request", .obj [("path", .null), ("range", .null), ("user_agent", .null)]),
    ("supports_resume", .bool true), ("response", response)])

end PlaybackEngine.Script
