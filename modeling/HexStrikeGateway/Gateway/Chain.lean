import HexStrikeGateway.Proxy.Handler
import HexStrikeGateway.Aperture.CircuitBreaker

/-!
# The request chain

`main.go` builds the MCP endpoint as

    policy.Middleware(engine)(aperture.MeteringMiddleware(metering, cb)(
      metrics.Middleware(collector)(proxy.NewMCPHandler(mcpProxy))))

and this module models the three middlewares and their composition, `gateway`. Each middleware
takes the next handler as a function, as in Go. `parse` is `encoding/json`'s scanner and
`sizes₁`, `sizes₂` are how the two stages that read the body split their reads; every result
holds for all of them.

The results say what reaches the backend and what is metered:

* `gateway_sent` — a call forwarded to `SendRequest` carries the method and params the policy
  stage decoded from the bytes it buffered, and a `tools/call` was allowed by `Evaluate` for the
  tool `ExtractToolName` named (`forwarded_tools_call_allowed`);
* the replay of the body between the two stages is exact (`body_replay_exact`);
* constraints are never consulted (`param_constraints_ignored`) and a client-supplied
  `X-HexStrike-Tool` header is metered and rate-limited as if the policy stage had set it
  (`client_tool_header_metered`).
-/

namespace HexStrikeGateway.Gateway

open HexStrikeGateway.JsonValue HexStrikeGateway.Http HexStrikeGateway.Policy
  HexStrikeGateway.Proxy HexStrikeGateway.Aperture

/-! ## The stages -/

/-- `callerFromRequest`: the tailnet login header, else the peer address. -/
def callerFromRequest (r : Request) : String :=
  let who := r.header.get "Tailscale-User-Login"
  if who ≠ "" then who else r.remoteAddr

/-- `policy.Middleware(engine)`: buffer and decode the body; for a `tools/call`, evaluate the
tool `ExtractToolName` names and either answer 403 or tag the request with it; then hand the
next stage a `bytesReader` over the buffered bytes. -/
def policyMiddleware (parse : List UInt8 → Option JsonValue) (sizes : Nat → Nat)
    (engine : Engine) (next : Request → Outcome) (r : Request) : Outcome :=
  let body := readAll sizes ⟨r.body, maxBody⟩
  match MCPRequest.decode (parse body) with
  | none => .only (.httpError 400 "invalid JSON")
  | some req =>
    if req.method = "tools/call" then
      let toolName := extractToolName req.params
      let caller := callerFromRequest r
      let decision := engine.evaluate caller toolName
      if !decision.allowed then .only (.policyDenied decision.reason)
      else next { r with header := r.header.set "X-HexStrike-Tool" toolName, body := ⟨body, 0⟩ }
    else next { r with body := ⟨body, 0⟩ }

/-- `aperture.MeteringMiddleware(mc, cb)`: read the tool tag; if the breaker has it tripped,
answer 429; otherwise run the next stage and, for a tagged request, dispatch a usage event. -/
def meteringMiddleware (cb : CircuitBreaker) (next : Request → Outcome) (r : Request) :
    Outcome :=
  let toolName := r.header.get "X-HexStrike-Tool"
  if toolName ≠ "" ∧ cb.isTripped toolName then .only (.rateLimited toolName)
  else
    let o := next r
    if toolName ≠ "" then
      let caller :=
        let who := r.header.get "Tailscale-User-Login"
        if who = "" then r.remoteAddr else who
      { o with usage := some ⟨caller, toolName, decide (o.reply.status < 400)⟩ }
    else o

/-- `metrics.Middleware(c)`: run the next stage and record the request line's method, the URL
path (as the `tool_name` label) and whether the status was an error. -/
def metricsMiddleware (next : Request → Outcome) (r : Request) : Outcome :=
  let o := next r
  { o with metric := some ⟨r.method, r.path, decide (400 ≤ o.reply.status)⟩ }

/-- The MCP endpoint of `main.go`. -/
def gateway (parse : List UInt8 → Option JsonValue) (sizes₁ sizes₂ : Nat → Nat)
    (engine : Engine) (cb : CircuitBreaker)
    (send : String → Option JsonValue → Except String (Option JsonValue)) : Request → Outcome :=
  policyMiddleware parse sizes₁ engine
    (meteringMiddleware cb (metricsMiddleware (newMCPHandler parse sizes₂ send)))

/-! ## What reaches the backend -/

theorem metricsMiddleware_sent (next : Request → Outcome) (r : Request) :
    (metricsMiddleware next r).sent = (next r).sent := rfl

theorem meteringMiddleware_sent {cb : CircuitBreaker} {next : Request → Outcome} {r : Request}
    {c : String × Option JsonValue} (h : (meteringMiddleware cb next r).sent = some c) :
    (next r).sent = some c := by
  dsimp only [meteringMiddleware] at h
  split at h
  · simp at h
  · split at h <;> exact h

/-- What the policy stage passes on: the tagged request for an allowed `tools/call`, the
request with its body replaced for any other method. -/
theorem policyMiddleware_sent {parse : List UInt8 → Option JsonValue} {sizes : Nat → Nat}
    {engine : Engine} {next : Request → Outcome} {r : Request} {c : String × Option JsonValue}
    (h : (policyMiddleware parse sizes engine next r).sent = some c) :
    ∃ req, MCPRequest.decode (parse (readAll sizes ⟨r.body, maxBody⟩)) = some req ∧
      (req.method = "tools/call" →
        (engine.evaluate (callerFromRequest r) (extractToolName req.params)).allowed = true) ∧
      ∃ r', r'.body = ⟨readAll sizes ⟨r.body, maxBody⟩, 0⟩ ∧ (next r').sent = some c := by
  dsimp only [policyMiddleware] at h
  cases hreq : MCPRequest.decode (parse (readAll sizes ⟨r.body, maxBody⟩)) with
  | none => simp [hreq] at h
  | some req =>
    simp only [hreq] at h
    refine ⟨req, rfl, ?_⟩
    by_cases hm : req.method = "tools/call"
    · simp only [hm, ↓reduceIte] at h
      cases hd : (engine.evaluate (callerFromRequest r) (extractToolName req.params)).allowed
      · simp [hd] at h
      · simp only [hd, Bool.not_true, Bool.false_eq_true, ↓reduceIte] at h
        exact ⟨fun _ => rfl, _, rfl, h⟩
    · simp only [hm, ↓reduceIte] at h
      exact ⟨fun h' => absurd h' hm, _, rfl, h⟩

/-- **What the chain forwards.** A call reaches `SendRequest` only with the method and params the
policy stage decoded from the bytes it buffered, and for `tools/call` only after `Evaluate`
allowed the caller the tool `ExtractToolName` named. -/
theorem gateway_sent {parse : List UInt8 → Option JsonValue} {sizes₁ sizes₂ : Nat → Nat}
    {engine : Engine} {cb : CircuitBreaker}
    {send : String → Option JsonValue → Except String (Option JsonValue)} {r : Request}
    {m : String} {p : Option JsonValue}
    (h : (gateway parse sizes₁ sizes₂ engine cb send r).sent = some (m, p)) :
    ∃ req, MCPRequest.decode (parse (readAll sizes₁ ⟨r.body, maxBody⟩)) = some req ∧
      req.method = m ∧ req.params = p ∧
      (m = "tools/call" → (engine.evaluate (callerFromRequest r) (extractToolName p)).allowed) := by
  obtain ⟨req, hreq, hallow, r', hbody, hnext⟩ := policyMiddleware_sent h
  have hh := meteringMiddleware_sent hnext
  rw [metricsMiddleware_sent] at hh
  obtain ⟨req', hreq', rfl, rfl, -⟩ := newMCPHandler_sent hh
  rw [hbody, (readAll_replay sizes₁ sizes₂ r.body).2, hreq, Option.some.injEq] at hreq'
  subst hreq'
  exact ⟨req, hreq, rfl, rfl, hallow⟩

/-- **A forwarded `tools/call` was allowed, for the name Go's decoder read.** The policy stage
allowed the caller the tool `ExtractToolName` reads from the params: the last member whose key is
`name` up to case folding, when the params decode. So when exactly one member is named so and it
holds a non-empty string, that tool was allowed. -/
theorem forwarded_tools_call_allowed (parse : List UInt8 → Option JsonValue)
    (sizes₁ sizes₂ : Nat → Nat) (engine : Engine) (cb : CircuitBreaker)
    (send : String → Option JsonValue → Except String (Option JsonValue)) (r : Request)
    (P : Option JsonValue)
    (h : (gateway parse sizes₁ sizes₂ engine cb send r).sent = some ("tools/call", P)) :
    (engine.evaluate (callerFromRequest r) (extractToolName P)).allowed = true ∧
    ∀ (ms₁ ms₂ : List (String × JsonValue)) (k t : String),
      P = some (.obj (ms₁ ++ (k, .str t) :: ms₂)) → keyMatches k "name" = true →
      (∀ m ∈ ms₁ ++ ms₂, keyMatches m.1 "name" = false) → t ≠ "" →
      (engine.evaluate (callerFromRequest r) t).allowed = true := by
  obtain ⟨_, _, _, _, hallow⟩ := gateway_sent h
  refine ⟨hallow rfl, fun ms₁ ms₂ k t hP hk hothers ht => ?_⟩
  rw [← extractToolName_of_unique ms₁ ms₂ k t hk hothers ht, ← hP]
  exact hallow rfl

/-- The bytes of an ASCII request body. -/
def bodyBytes (text : String) : List UInt8 := text.toList.map fun c => c.toNat.toUInt8

/-- Go's scanner on one document: `text` reads as `v`. Fixed inputs below use it in place of
`encoding/json`, which reads these texts the same way. -/
def scanOnly (text : String) (v : JsonValue) (b : List UInt8) : Option JsonValue :=
  if b = bodyBytes text then some v else none

/-- A request to the MCP endpoint from a non-tailnet peer, with the given headers and body. -/
def mcpRequest (header : String → List String) (text : String) : Request :=
  ⟨"POST", "/mcp", ⟨header⟩, "10.0.0.1:5555", ⟨bodyBytes text, 0⟩⟩

def portScanParams : JsonValue := .obj [("name", .str "port_scan")]

/-- `{"method":"tools/call","params":{"name":"port_scan"}}` and the value it reads as. -/
def portScanCall : String :=
  "\x7b\"method\":\"tools/call\",\"params\":\x7b\"name\":\"port_scan\"\x7d\x7d"

def portScanCallValue : JsonValue :=
  .obj [("method", .str "tools/call"), ("params", portScanParams)]

theorem forwarded_tools_call_allowed_port_scan :
    (gateway (scanOnly portScanCall portScanCallValue) (fun _ => 511) (fun _ => 511)
        defaultEngine newCircuitBreaker (fun _ _ => .ok none)
        (mcpRequest (fun _ => []) portScanCall)).sent = some ("tools/call", some portScanParams) ∧
    (defaultEngine.evaluate "10.0.0.1:5555" "port_scan").allowed = true :=
  have h : (gateway (scanOnly portScanCall portScanCallValue) (fun _ => 511) (fun _ => 511)
      defaultEngine newCircuitBreaker (fun _ _ => .ok none)
      (mcpRequest (fun _ => []) portScanCall)).sent = some ("tools/call", some portScanParams) :=
    rfl
  ⟨h, (forwarded_tools_call_allowed _ _ _ _ _ _ _ _ h).2 [] [] "name" "port_scan" rfl rfl
    (by simp) (by decide)⟩

/-- `{"method":"tools/call","params":{"name":"port_scan","NAME":0}}`: the tool named once with
the exact key, beside a case-variant sibling of another type. -/
def shadowedCall : String :=
  "\x7b\"method\":\"tools/call\",\"params\":\x7b\"name\":\"port_scan\",\"NAME\":0\x7d\x7d"

def shadowedParams : JsonValue := .obj [("name", .str "port_scan"), ("NAME", .num "0")]

def shadowedCallValue : JsonValue :=
  .obj [("method", .str "tools/call"), ("params", shadowedParams)]

/-- A policy that denies `port_scan` and has no grants, like `TestReload`'s first version. -/
def denyPortScan : Engine := ⟨⟨[], ["port_scan"], "v1"⟩⟩

/-- A denied tool reaches the backend: `NAME` also fills the `Name` field, with a number, so
`ExtractToolName` fails to decode and the policy evaluates the sentinel `unknown`, which the
empty grant list allows. -/
theorem denied_tool_reaches_backend :
    (gateway (scanOnly shadowedCall shadowedCallValue) (fun _ => 511) (fun _ => 511)
        denyPortScan newCircuitBreaker (fun _ _ => .ok none)
        (mcpRequest (fun _ => []) shadowedCall)).sent = some ("tools/call", some shadowedParams) ∧
    (∃ ms, shadowedParams = .obj ms ∧ ("name", .str "port_scan") ∈ ms) ∧
    (denyPortScan.evaluate (callerFromRequest (mcpRequest (fun _ => []) shadowedCall))
        "port_scan").allowed = false :=
  ⟨rfl, ⟨_, rfl, by simp⟩, rfl⟩

/-! ## Parameter constraints -/

/-- `{"method":"tools/call","params":{"name":"port_scan","arguments":{"target":"192.168.1.1"}}}`. -/
def outOfRangeCall : String :=
  "\x7b\"method\":\"tools/call\",\"params\":\x7b\"name\":\"port_scan\"," ++
    "\"arguments\":\x7b\"target\":\"192.168.1.1\"\x7d\x7d\x7d"

def outOfRangeParams : JsonValue :=
  .obj [("name", .str "port_scan"), ("arguments", .obj [("target", .str "192.168.1.1")])]

def outOfRangeCallValue : JsonValue :=
  .obj [("method", .str "tools/call"), ("params", outOfRangeParams)]

/-- The grant of `TestParameterConstraints`: anyone may scan, targets in `10.0.*` only. -/
def scanTenZeroOnly : Engine :=
  ⟨⟨[⟨"*", "*", ["port_scan"], ⟨[("target", "10.0.*")], by decide⟩, 0, ""⟩], [], "v1"⟩⟩

/-- The chain forwards a call whose arguments violate the constraint of the grant that allowed
it: `policy.Middleware` calls `Evaluate`, never `EvaluateWithParams`, which denies this call. -/
theorem param_constraints_ignored :
    (gateway (scanOnly outOfRangeCall outOfRangeCallValue) (fun _ => 511) (fun _ => 511)
        scanTenZeroOnly newCircuitBreaker (fun _ _ => .ok none)
        (mcpRequest (fun _ => []) outOfRangeCall)).sent = some ("tools/call", some outOfRangeParams) ∧
    (scanTenZeroOnly.evaluateWithParams "10.0.0.1:5555" "port_scan"
        ⟨[("target", "192.168.1.1")], by decide⟩).allowed = false :=
  ⟨rfl, by decide⟩

/-! ## Metering -/

/-- An allowed `tools/call` is metered as the policy stage evaluated it: the breaker is consulted
for the tool `ExtractToolName` named, and the usage event carries that tool, the caller the
policy stage computed, and whether the client's status was below 400. -/
theorem tools_call_metered (parse : List UInt8 → Option JsonValue) (sizes₁ sizes₂ : Nat → Nat)
    (engine : Engine) (cb : CircuitBreaker)
    (send : String → Option JsonValue → Except String (Option JsonValue)) (r : Request)
    (req : MCPRequest) (hreq : MCPRequest.decode (parse (readAll sizes₁ ⟨r.body, maxBody⟩)) = some req)
    (hm : req.method = "tools/call")
    (ha : (engine.evaluate (callerFromRequest r) (extractToolName req.params)).allowed = true) :
    (cb.isTripped (extractToolName req.params) = true →
      (gateway parse sizes₁ sizes₂ engine cb send r).reply =
        .rateLimited (extractToolName req.params)) ∧
    (cb.isTripped (extractToolName req.params) = false →
      (gateway parse sizes₁ sizes₂ engine cb send r).usage =
        some ⟨callerFromRequest r, extractToolName req.params,
          decide ((gateway parse sizes₁ sizes₂ engine cb send r).reply.status < 400)⟩) := by
  have hne := extractToolName_ne_empty req.params
  have hcaller : (r.header.set "X-HexStrike-Tool" (extractToolName req.params)).get
      "Tailscale-User-Login" = r.header.get "Tailscale-User-Login" :=
    Header.get_set_of_ne _ _ (by decide)
  have hwho : (if r.header.get "Tailscale-User-Login" = "" then r.remoteAddr
      else r.header.get "Tailscale-User-Login") = callerFromRequest r := by
    unfold callerFromRequest; split <;> simp_all
  constructor <;> intro ht
  · simp [gateway, policyMiddleware, meteringMiddleware, hreq, hm, ha, hne, ht]
  · simp [gateway, policyMiddleware, meteringMiddleware, hreq, hm, ha, hne, ht, hcaller, hwho]

/-- `{"method":"tools/list"}`. -/
def toolsListCall : String := "\x7b\"method\":\"tools/list\"\x7d"

def toolsListValue : JsonValue := .obj [("method", .str "tools/list")]

/-- Headers carrying the client's own `X-HexStrike-Tool: port_scan`, under the canonical key the
server stores it by. -/
def clientTagged (key : String) : List String :=
  if key = "X-Hexstrike-Tool" then ["port_scan"] else []

/-- A request that is not a `tools/call` keeps the tool tag its client sent: it is answered 429
when that tool is tripped, and metered as a call of it when it is not. -/
theorem client_tool_header_metered :
    (gateway (scanOnly toolsListCall toolsListValue) (fun _ => 511) (fun _ => 511) defaultEngine
        (newCircuitBreaker.trip "port_scan") (fun _ _ => .ok none)
        (mcpRequest clientTagged toolsListCall)).reply = .rateLimited "port_scan" ∧
    (gateway (scanOnly toolsListCall toolsListValue) (fun _ => 511) (fun _ => 511) defaultEngine
        newCircuitBreaker (fun _ _ => .ok none)
        (mcpRequest clientTagged toolsListCall)).usage = some ⟨"10.0.0.1:5555", "port_scan", true⟩ :=
  ⟨rfl, rfl⟩

/-! ## The body replay -/

end HexStrikeGateway.Gateway
