import PlaybackEngine.Error

/-!
# The content transport

The host's way of fetching content by url, from a byte offset. Each url has a route that says
how it answers:

- `body len`: the whole content of `len` bytes; a request from an offset inside the content is
  answered from there, when the transport honours ranges;
- `truncated n len`: like `body`, but only the first `n` bytes exist, of a total of `len`;
- `status s`: an HTTP error;
- `networkDown`: a network fault;
- `stall`: a body that yields nothing until stalls are ended, then ends, of unknown total;
- `shifted at len`: whatever the offset, the content from byte `at` on;
- `broken n len`: the first `n` bytes from the start, then a broken connection;
- `none`: no route, an HTTP 404.

Every request is logged with its url and offset.
-/

set_option autoImplicit false

namespace PlaybackEngine

/-- How a url answers. -/
inductive Route where
  | body (len : Nat)
  | truncated (n len : Nat)
  | status (code : Nat)
  | networkDown
  | stall
  | shifted (at_ len : Nat)
  | broken (n len : Nat)
  | none
  deriving DecidableEq, Repr, Inhabited

/-- How a body delivers its bytes. -/
inductive BodyEnd where
  /-- The bytes, then the end. -/
  | complete
  /-- The bytes, then a broken connection. -/
  | broken
  /-- Nothing until stalls are ended, then the end. -/
  | stalled
  deriving DecidableEq, Repr, Inhabited

/-- An answer to a request: how many bytes the body holds, how it ends, the total length of
the content if known, and the offset the body starts at. -/
structure Response where
  bodyBytes : Nat
  ending : BodyEnd
  totalLength : Option Nat
  resumedFrom : Nat
  deriving DecidableEq, Repr, Inhabited

/-- The transport: the route of each url, whether ranges are honoured, the log of requests,
and how many stalled bodies were opened since stalls last ended. -/
structure Transport where
  routes : List (String × Route) := []
  honourRanges : Bool := true
  opened : List (String × Nat) := []
  stalls : Nat := 0
  deriving Repr, Inhabited

namespace Transport

/-- The route of a url. -/
def route (t : Transport) (url : String) : Route :=
  match t.routes.reverse.find? (·.1 == url) with
  | some (_, r) => r
  | none => .none

/-- Sets the route of a url. -/
def setRoute (t : Transport) (url : String) (r : Route) : Transport :=
  { t with routes := t.routes.filter (·.1 != url) ++ [(url, r)] }

/-- Whether the transport can resume from an offset. -/
def supportsResume (t : Transport) : Bool := t.honourRanges

/-- The answer of `served` bytes of a content of `total`, asked from `offset`. -/
def ranged (t : Transport) (served total offset : Nat) : Response :=
  if t.honourRanges && 0 < offset && offset ≤ served then
    ⟨served - offset, .complete, some total, offset⟩
  else ⟨served, .complete, some total, 0⟩

/-- Answers a request for `url` from `offset`, logging it. -/
def request (t : Transport) (url : String) (offset : Nat) : Except HostError Response × Transport :=
  let t := { t with opened := t.opened ++ [(url, offset)] }
  match t.route url with
  | .body len => (.ok (t.ranged len len offset), t)
  | .truncated n len => (.ok (t.ranged (min n len) len offset), t)
  | .status code => (.error (.http code "fake status"), t)
  | .networkDown => (.error (.network "connection refused"), t)
  | .stall => (.ok ⟨0, .stalled, none, offset⟩, { t with stalls := t.stalls + 1 })
  | .shifted at_ len => (.ok ⟨len - min at_ len, .complete, some len, min at_ len⟩, t)
  | .broken n len => (.ok ⟨min n len, .broken, some len, 0⟩, t)
  | .none => (.error (.http 404 s!"no route for {url}"), t)

end Transport

end PlaybackEngine
