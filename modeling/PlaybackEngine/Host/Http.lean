import PlaybackEngine.Error
import PlaybackEngine.Download.State
import PlaybackEngine.Text.Blank
import PlaybackEngine.Text.Utf8

/-!
# Fetching content over HTTP

How the HTTP transport asks for content and reads the answer's head.

A request asks for the content from an offset with `Range: bytes=<offset>-`, sent only for a
positive offset. The answer's head says where the body starts and how long the whole content
is:

* `206 Partial Content` with a usable `Content-Range` (`bytes <start>-<end>/<total>`, the total
  possibly `*`) starts at `start`; without one the body starts at the offset asked for, and the
  content is the body's length past the offset, a sum taken in a 64-bit word that wraps.
* Any other success starts at zero: the server sent everything, ignoring the range. The
  content is the body's length.
* Any other status is an HTTP error, with the status's standard reason.

A request that reaches no server fails as a network error naming the URL. URLs are written in
their standard form: C0 controls and spaces at the end dropped, tabs and line breaks dropped,
`.` and `..` segments resolved, `\` read as `/`, and characters outside each part's allowed set
percent-encoded.
-/

set_option autoImplicit false

namespace PlaybackEngine.Http

-- Powers by core's `Nat.pow` and `Int.pow`, also where an algebra library is loaded, so that
-- each definition means the same wherever it is built.
attribute [local instance (high)] instPowNat

/-- The user agent the transport announces. -/
def userAgent : String := "cacheplay/0.1.0"

/-- The range header of a request from an offset: none from the start. -/
def rangeHeader (offset : Nat) : Option String :=
  if offset > 0 then some ("bytes=" ++ toString offset ++ "-") else none

/-- A decimal unsigned 64-bit number: an optional `+` and one or more digits. -/
def parseWord (s : String) : Option Nat :=
  let ds := match s.toList with
    | '+' :: r => r
    | r => r
  if ds.isEmpty || !ds.all Char.isDigit then none
  else
    let v := ds.foldl (fun n d => n * 10 + (d.toNat - '0'.toNat)) 0
    if v < 2 ^ (64 : Nat) then some v else none

/-- The text after a prefix, if the text starts with it. -/
def stripPrefix? (s pre : String) : Option String :=
  if pre.toList.isPrefixOf s.toList then some (String.ofList (s.toList.drop pre.length)) else none

/-- The text before and after the first `c`, if `c` occurs. -/
def splitOnce (s : String) (c : Char) : Option (String × String) :=
  match s.toList.span (· != c) with
  | (before, _ :: after) => some (String.ofList before, String.ofList after)
  | (_, []) => none

/-- The start and, when known, the total length of a `Content-Range` value
`bytes <start>-<end>/<total>`: blanks around the value, after `bytes` and around the numbers
are allowed, the end is not read, and a total of `*` is unknown. -/
def parseContentRange (value : String) : Option (Nat × Option Nat) := do
  let rest ← stripPrefix? (Text.trimBlank value) "bytes"
  let (range, total) ← splitOnce (Text.trimBlankStart rest) '/'
  let (start, _) ← splitOnce range '-'
  let start ← parseWord (Text.trimBlank start)
  let total ← match Text.trimBlank total with
    | "*" => some none
    | t => (parseWord t).map some
  pure (start, total)

/-- The head of an answer, as the transport reads it: the status, the `Content-Range` value if
there is one in visible ASCII, and the body's length if known. -/
structure Head where
  status : Nat
  contentRange : Option String := none
  contentLength : Option Nat := none
  deriving DecidableEq, Repr

/-- Where a body starts and how long the whole content is. -/
structure Opened where
  resumedFrom : Nat
  totalLength : Option Nat
  deriving DecidableEq, Repr

/-- The standard reason of a status. -/
def canonicalReason : Nat → Option String
  | 100 => some "Continue" | 101 => some "Switching Protocols" | 102 => some "Processing"
  | 103 => some "Early Hints"
  | 200 => some "OK" | 201 => some "Created" | 202 => some "Accepted"
  | 203 => some "Non Authoritative Information" | 204 => some "No Content"
  | 205 => some "Reset Content" | 206 => some "Partial Content" | 207 => some "Multi-Status"
  | 208 => some "Already Reported" | 226 => some "IM Used"
  | 300 => some "Multiple Choices" | 301 => some "Moved Permanently" | 302 => some "Found"
  | 303 => some "See Other" | 304 => some "Not Modified" | 305 => some "Use Proxy"
  | 307 => some "Temporary Redirect" | 308 => some "Permanent Redirect"
  | 400 => some "Bad Request" | 401 => some "Unauthorized" | 402 => some "Payment Required"
  | 403 => some "Forbidden" | 404 => some "Not Found" | 405 => some "Method Not Allowed"
  | 406 => some "Not Acceptable" | 407 => some "Proxy Authentication Required"
  | 408 => some "Request Timeout" | 409 => some "Conflict" | 410 => some "Gone"
  | 411 => some "Length Required" | 412 => some "Precondition Failed"
  | 413 => some "Payload Too Large" | 414 => some "URI Too Long"
  | 415 => some "Unsupported Media Type" | 416 => some "Range Not Satisfiable"
  | 417 => some "Expectation Failed" | 418 => some "I\x27m a teapot"
  | 421 => some "Misdirected Request" | 422 => some "Unprocessable Entity" | 423 => some "Locked"
  | 424 => some "Failed Dependency" | 426 => some "Upgrade Required"
  | 428 => some "Precondition Required" | 429 => some "Too Many Requests"
  | 431 => some "Request Header Fields Too Large" | 451 => some "Unavailable For Legal Reasons"
  | 500 => some "Internal Server Error" | 501 => some "Not Implemented"
  | 502 => some "Bad Gateway" | 503 => some "Service Unavailable" | 504 => some "Gateway Timeout"
  | 505 => some "HTTP Version Not Supported" | 506 => some "Variant Also Negotiates"
  | 507 => some "Insufficient Storage" | 508 => some "Loop Detected" | 510 => some "Not Extended"
  | 511 => some "Network Authentication Required"
  | _ => none

/-- Reads an answer's head for a request from `offset`. -/
def openHead (offset : Nat) (h : Head) : Except HostError Opened :=
  if h.status = 206 then
    match h.contentRange.bind parseContentRange with
    | some (start, total) => .ok ⟨start, total⟩
    | none => .ok ⟨offset, h.contentLength.map fun len => (len + offset) % wordModulus⟩
  else if 200 ≤ h.status ∧ h.status < 300 then .ok ⟨0, h.contentLength⟩
  else .error (.http h.status ((canonicalReason h.status).getD "unexpected status"))

/-- The failure of a request that reached no server. -/
def unreachable (url : String) : HostError :=
  .network ("error sending request for url (" ++ url ++ ")")

/-- The failure of a request whose URL cannot be read. -/
def malformedUrl : HostError := .network "builder error"

/-- The failure of a request whose URL names a scheme the transport does not speak. -/
def unsupportedScheme (url : String) : HostError :=
  .network ("builder error for url (" ++ url ++ ")")

/-- The upper-case hexadecimal digit of a value below sixteen. -/
def upperHexDigit (n : Nat) : Char :=
  if n < 10 then Char.ofNat (48 + n) else Char.ofNat (55 + n)

/-- A character, percent-encoded byte by byte when `encode` holds for it. -/
def percentEncoded (encode : Char → Bool) (c : Char) : String :=
  if encode c then
    String.join ((Text.encodeChar c).map fun b =>
      String.ofList ['%', upperHexDigit (b.toNat / 16), upperHexDigit (b.toNat % 16)])
  else String.singleton c

/-- Whether a character is a control or outside printable ASCII. -/
def outsidePrintable (c : Char) : Bool := c.toNat < 0x20 || c.toNat > 0x7E

/-- The characters a path segment encodes. -/
def pathEncodes (c : Char) : Bool :=
  outsidePrintable c || [' ', '"', '#', '<', '>', '?', Char.ofNat 96, '\x7b', '\x7d'].contains c

/-- The characters a query encodes. -/
def queryEncodes (c : Char) : Bool :=
  outsidePrintable c || [' ', '"', '#', '<', '>', Char.ofNat 39].contains c

/-- The characters a fragment encodes. -/
def fragmentEncodes (c : Char) : Bool :=
  outsidePrintable c || [' ', '"', '<', '>', Char.ofNat 96].contains c

/-- Text with each character encoded as `encode` says. -/
def encodedText (encode : Char → Bool) (s : String) : String :=
  String.join (s.toList.map (percentEncoded encode))

/-- Whether a segment is `.`, possibly written `%2e`. -/
def isSingleDot (s : String) : Bool := s == "." || s == "%2e" || s == "%2E"

/-- Whether a segment is `..`, either dot possibly written `%2e`. -/
def isDoubleDot (s : String) : Bool :=
  ["..", ".%2e", ".%2E", "%2e.", "%2E.", "%2e%2e", "%2e%2E", "%2E%2e", "%2E%2E"].contains s

/-- The segments of a path after its leading slash, dot segments resolved and each encoded. -/
def resolvedSegments : List String → List String → List String
  | acc, [] => acc
  | acc, [seg] =>
    if isDoubleDot seg then acc.dropLast ++ [""]
    else if isSingleDot seg then acc ++ [""]
    else acc ++ [encodedText pathEncodes seg]
  | acc, seg :: rest =>
    if isDoubleDot seg then resolvedSegments acc.dropLast rest
    else if isSingleDot seg then resolvedSegments acc rest
    else resolvedSegments (acc ++ [encodedText pathEncodes seg]) rest

/-- Whether a character is a C0 control or a space, which a URL loses at its ends. -/
def isControlOrSpace (c : Char) : Bool := c.toNat ≤ 0x20

/-- Whether a character is a tab or a line break, which a URL loses wherever it stands. -/
def isTabOrNewline (c : Char) : Bool := c = '\t' || c = '\n' || c = '\r'

/-- The text of the end of a URL as it is read: C0 controls and spaces at its end dropped, and
tabs and line breaks dropped throughout. -/
def urlTail (s : String) : String :=
  let kept := (s.toList.reverse.dropWhile isControlOrSpace).reverse
  String.ofList (kept.filter fun c => !isTabOrNewline c)

/-- The standard form of the part of a URL from its path on, for a path starting with `/` that
ends the URL. -/
def pathQueryFragment (raw : String) : String :=
  let target := urlTail raw
  let (beforeFragment, fragment) := match target.splitOn "#" with
    | b :: f :: more => (b, some ("#".intercalate (f :: more)))
    | _ => (target, none)
  let (path, query) := match beforeFragment.splitOn "?" with
    | p :: q :: more => (p, some ("?".intercalate (q :: more)))
    | _ => (beforeFragment, none)
  let unified := String.ofList (path.toList.map fun c => if c = '\\' then '/' else c)
  let segments := match (unified.splitOn "/") with
    | "" :: rest => rest
    | all => all
  "/" ++ "/".intercalate (resolvedSegments [] segments) ++
    (match query with
      | some q => "?" ++ encodedText queryEncodes q
      | none => "") ++
    (match fragment with
      | some f => "#" ++ encodedText fragmentEncodes f
      | none => "")

end PlaybackEngine.Http
