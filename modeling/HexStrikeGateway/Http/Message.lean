import HexStrikeGateway.Json
import HexStrikeGateway.Http.Body
import HexStrikeGateway.Policy.Engine

/-!
# Requests, replies, and what a request leaves behind

The shapes every stage of the chain shares. A `Request` is what `net/http` hands a handler: the
method and path of the HTTP request line, its header map, the peer address and a body reader. A
stage answers with an `Outcome`: the `Reply` the client receives, and the three effects a request
can have besides it, namely the call `MCPProxy.SendRequest` receives, the usage event metering
dispatches and the metric the collector records.

Header keys are kept in `textproto` canonical form, as the server stores them; `Header.get` and
`Header.set` canonicalise the key they are given, as Go's do.
-/

namespace HexStrikeGateway.Http

open HexStrikeGateway.Policy

/-- `validHeaderFieldByte`: the token characters of RFC 7230 (`'` and the backquote are
`Char.ofNat 39` and `Char.ofNat 96`). -/
def isTokenChar (c : Char) : Bool :=
  c.isAlphanum || c ∈ "!#$%&*+-.^_|~".toList || c = Char.ofNat 39 || c = Char.ofNat 96

/-- The canonicalising loop of `canonicalMIMEHeaderKey`: upper-case a letter at the start or
after `-`, lower-case any other. -/
def canonicalize : Bool → List Char → List Char
  | _, [] => []
  | upper, c :: cs =>
    let c' := if upper then c.toUpper else c.toLower
    c' :: canonicalize (c' = '-') cs

/-- `textproto.CanonicalMIMEHeaderKey`: a key with a byte that is not a token character is
left as it is. -/
def canonicalMIMEHeaderKey (s : String) : String :=
  if s.toList.all isTokenChar then ⟨canonicalize true s.toList⟩ else s

/-- `http.Header`: values by canonical key. -/
structure Header where
  values : String → List String

def Header.get (h : Header) (key : String) : String :=
  (h.values (canonicalMIMEHeaderKey key)).headD ""

def Header.set (h : Header) (key value : String) : Header :=
  ⟨Function.update h.values (canonicalMIMEHeaderKey key) [value]⟩

/-- An inbound `http.Request`, as far as the chain reads it. -/
structure Request where
  method : String
  path : String
  header : Header
  remoteAddr : String
  body : BytesReader

/-- What the client receives. -/
inductive Reply where
  /-- `http.Error`: a plain-text message and its status. -/
  | httpError (status : Nat) (msg : String)
  /-- A JSON-encoded `proxy.MCPResponse` with its `result` and `error` fields. -/
  | mcp (status : Nat) (result : Option JsonValue) (error : String)
  /-- The 403 of `policy.Middleware`: `MCPResponse{Error: "policy denied: " + reason}`. -/
  | policyDenied (reason : Reason)
  /-- The 429 of `MeteringMiddleware`, whose body is `{"error":"rate limited: <tool>"}`. -/
  | rateLimited (toolName : String)

/-- The status the client receives (and every `statusWriter` on the way records). -/
def Reply.status : Reply → Nat
  | .httpError s _ => s
  | .mcp s _ _ => s
  | .policyDenied _ => 403
  | .rateLimited _ => 429

/-- `aperture.UsageEvent`, without its clock readings (`Duration`, `Timestamp`) and the
`Tokens` field no stage sets. -/
structure UsageEvent where
  caller : String
  toolName : String
  success : Bool
  deriving DecidableEq, Repr

/-- The labels and error flag `metrics.Middleware` passes to `RecordRequest`. -/
structure RequestMetric where
  method : String
  toolName : String
  isError : Bool
  deriving DecidableEq, Repr

/-- What handling a request did: the reply, the call `SendRequest` received, the usage event
dispatched and the metric recorded. -/
structure Outcome where
  reply : Reply
  sent : Option (String × Option JsonValue)
  usage : Option UsageEvent
  metric : Option RequestMetric

def Outcome.only (reply : Reply) : Outcome := ⟨reply, none, none, none⟩

@[simp] theorem Outcome.only_reply (reply : Reply) : (Outcome.only reply).reply = reply := rfl

@[simp] theorem Outcome.only_sent (reply : Reply) : (Outcome.only reply).sent = none := rfl

@[simp] theorem Header.get_set (h : Header) (key value : String) :
    (h.set key value).get key = value := by
  simp [Header.get, Header.set]

theorem Header.get_set_of_ne (h : Header) {key key' : String} (value : String)
    (hk : canonicalMIMEHeaderKey key' ≠ canonicalMIMEHeaderKey key) :
    (h.set key value).get key' = h.get key' := by
  simp [Header.get, Header.set, hk]

end HexStrikeGateway.Http
