import HexStrikeGateway.Gateway.Chain
import HexStrikeGateway.Proxy.Delivery
import HexStrikeGateway.Policy.Cache

/-!
# The gateway process

`main.go` serves two endpoints from one process: `POST /mcp`, through the chain of
`Gateway.Chain`, and `POST /aperture/webhook`, which trips and resets the circuit breaker the
chain's metering stage reads. Every MCP request runs in its own goroutine and, if the chain gets
that far, blocks in `SendRequest` on the one `MCPProxy` of `Proxy.Bridge`. This module models the
process as one state machine, `Server.step`, over any interleaving of arriving requests, webhook
requests, the backend's answers, its exit and `Stop`.

A request's goroutine touches shared state at three points only: it reads the breaker (one
`IsTripped`, under the breaker's lock), it takes `p.mu` and writes its request line, and it reads
its answer and releases `p.mu`. Everything else it does is local to it, so each of the three is
one step and the local work around it is folded into the step (`mcp`, `lock`, `recv`). The
engine is the one `NewEngine` loaded, which nothing changes while serving.

Request `i` (counting arrivals from `0`) calls `SendRequest` as bridge caller `i + 1`; caller `0`
is `NewMCPProxy`'s `initialize`.

The first section says how the chain uses `SendRequest`. The model's `Outcome` records one call
at most, as the source makes at most one on each path; what is proved is that the call the chain
makes does not depend on what `SendRequest` answers, and that the chain's outcome depends only on
the answer to that call (`gateway_usesOneAnswer`). This is what lets the process below run the
chain up to `SendRequest`, and finish it later with the call's return value.
-/

namespace HexStrikeGateway.Gateway

open HexStrikeGateway.JsonValue HexStrikeGateway.Http HexStrikeGateway.Policy
  HexStrikeGateway.Proxy HexStrikeGateway.Aperture

/-- What `SendRequest` answers the handler: the result, or the text of its error. -/
abbrev Send := String → Option JsonValue → Except String (Option JsonValue)

/-! ## How the chain uses `SendRequest` -/

/-- A handler whose outcome uses one answer of `SendRequest`: the call it records is the same
whatever `SendRequest` answers, and its outcome is the same for any two `SendRequest`s that
answer that call alike. -/
structure UsesOneAnswer (h : Send → Request → Outcome) : Prop where
  sent_eq : ∀ send send' r, (h send r).sent = (h send' r).sent
  congr : ∀ send send' r, (∀ c, (h send r).sent = some c → send c.1 c.2 = send' c.1 c.2) →
    h send r = h send' r

/-- A middleware that, on each request, either answers by itself or calls the next handler once,
on a request it computes, and passes on the call that handler made. -/
def Stage (mw : (Request → Outcome) → Request → Outcome) : Prop :=
  ∀ r, (∃ o, ∀ next, mw next r = o) ∨
    ∃ (r' : Request) (k : Outcome → Outcome), (∀ o, (k o).sent = o.sent) ∧
      ∀ next, mw next r = k (next r')

/-- A stage in front of a handler that uses one answer of `SendRequest` makes another. -/
theorem Stage.usesOneAnswer {mw : (Request → Outcome) → Request → Outcome} (hmw : Stage mw)
    {h : Send → Request → Outcome} (hh : UsesOneAnswer h) :
    UsesOneAnswer fun send => mw (h send) := by
  constructor
  · intro send send' r
    rcases hmw r with ⟨o, ho⟩ | ⟨r', k, hk, hm⟩
    · rw [ho, ho]
    · rw [hm, hm, hk, hk, hh.sent_eq send send' r']
  · intro send send' r hagree
    rcases hmw r with ⟨o, ho⟩ | ⟨r', k, hk, hm⟩
    · rw [ho, ho]
    · rw [hm, hm, hh.congr send send' r' fun c hc => hagree c (by rw [hm, hk, hc])]

theorem metricsMiddleware_stage : Stage metricsMiddleware :=
  fun r => .inr ⟨r,
    fun o => { o with metric := some ⟨r.method, r.path, decide (400 ≤ o.reply.status)⟩ },
    fun _ => rfl, fun _ => rfl⟩

theorem meteringMiddleware_stage (cb : CircuitBreaker) : Stage (meteringMiddleware cb) := by
  intro r
  by_cases ht : r.header.get "X-HexStrike-Tool" ≠ "" ∧
      cb.isTripped (r.header.get "X-HexStrike-Tool") = true
  · exact .inl ⟨_, fun next => if_pos ht⟩
  · refine .inr ⟨r, fun o => if r.header.get "X-HexStrike-Tool" ≠ "" then
        { o with usage := some ⟨(let who := r.header.get "Tailscale-User-Login"
          if who = "" then r.remoteAddr else who), r.header.get "X-HexStrike-Tool",
          decide (o.reply.status < 400)⟩ } else o, fun o => ?_, fun next => if_neg ht⟩
    split <;> rfl

theorem policyMiddleware_stage (parse : List UInt8 → Option JsonValue) (sizes : Nat → Nat)
    (engine : Engine) : Stage (policyMiddleware parse sizes engine) := by
  intro r
  dsimp only [policyMiddleware]
  split
  · exact .inl ⟨_, fun _ => rfl⟩
  · split
    · split
      · exact .inl ⟨_, fun _ => rfl⟩
      · exact .inr ⟨_, id, fun _ => rfl, fun _ => rfl⟩
    · exact .inr ⟨_, id, fun _ => rfl, fun _ => rfl⟩

theorem newMCPHandler_usesOneAnswer (parse : List UInt8 → Option JsonValue)
    (sizes : Nat → Nat) : UsesOneAnswer (newMCPHandler parse sizes) := by
  constructor
  · intro send send' r
    dsimp only [newMCPHandler]
    split
    · rfl
    · split
      · rfl
      · split <;> split <;> rfl
  · intro send send' r hagree
    dsimp only [newMCPHandler] at hagree ⊢
    generalize MCPRequest.decode (parse (readAll sizes ⟨r.body, maxBody⟩)) = d at hagree ⊢
    rcases d with _ | req
    · rfl
    · by_cases hm : req.method = ""
      · simp only [hm, if_true]
      · simp only [hm, if_false] at hagree ⊢
        rw [hagree (req.method, req.params) (by split <;> rfl)]

/-- **The chain's outcome uses one answer of `SendRequest`.** Which call it records does not
depend on what `SendRequest` answers, and what it answers the client depends only on the answer
to that call. -/
theorem gateway_usesOneAnswer (parse : List UInt8 → Option JsonValue)
    (sizes₁ sizes₂ : Nat → Nat) (engine : Engine) (cb : CircuitBreaker) :
    UsesOneAnswer fun send => gateway parse sizes₁ sizes₂ engine cb send :=
  (policyMiddleware_stage parse sizes₁ engine).usesOneAnswer <|
    (meteringMiddleware_stage cb).usesOneAnswer <|
      metricsMiddleware_stage.usesOneAnswer (newMCPHandler_usesOneAnswer parse sizes₂)

/-! ## What the breaker decides -/

/-- A `tools/call` the chain forwards had its tool untripped when the metering stage read the
breaker: the policy stage tagged the request with that tool, and a tripped tag is answered 429. -/
theorem gateway_sent_untripped {parse : List UInt8 → Option JsonValue} {sizes₁ sizes₂ : Nat → Nat}
    {engine : Engine} {cb : CircuitBreaker} {send : Send} {r : Request} {p : Option JsonValue}
    (h : (gateway parse sizes₁ sizes₂ engine cb send r).sent = some ("tools/call", p)) :
    cb.isTripped (extractToolName p) = false := by
  obtain ⟨req, hreq, hm, rfl, hallow⟩ := gateway_sent h
  have hne := extractToolName_ne_empty req.params
  cases ht : cb.isTripped (extractToolName req.params)
  · rfl
  · simp [gateway, policyMiddleware, meteringMiddleware, hreq, hm, hallow rfl, hne, ht] at h

/-- The handler answers with its own 400s, or with what `SendRequest` gave it. -/
theorem newMCPHandler_reply (parse : List UInt8 → Option JsonValue) (sizes : Nat → Nat)
    (send : Send) (r : Request) :
    (∃ s msg, (newMCPHandler parse sizes send r).reply = .httpError s msg) ∨
    ∃ s res err, (newMCPHandler parse sizes send r).reply = .mcp s res err := by
  dsimp only [newMCPHandler]
  split
  · exact .inl ⟨_, _, rfl⟩
  · split
    · exact .inl ⟨_, _, rfl⟩
    · split
      · exact .inr ⟨_, _, _, rfl⟩
      · exact .inr ⟨_, _, _, rfl⟩

/-- Metering answers 429 for a tripped tag, or passes on the next stage's reply. -/
theorem meteringMiddleware_reply (cb : CircuitBreaker) (next : Request → Outcome) (r : Request) :
    (∃ t, (meteringMiddleware cb next r).reply = .rateLimited t ∧ cb.isTripped t = true) ∨
    (meteringMiddleware cb next r).reply = (next r).reply := by
  dsimp only [meteringMiddleware]
  split
  · next ht => exact .inl ⟨_, rfl, ht.2⟩
  · split <;> exact .inr rfl

/-- The policy stage answers 400 for a body that does not decode, 403 with `Evaluate`'s reason
for a denied `tools/call`, or passes on the next stage's reply. -/
theorem policyMiddleware_reply (parse : List UInt8 → Option JsonValue) (sizes : Nat → Nat)
    (engine : Engine) (next : Request → Outcome) (r : Request) :
    (policyMiddleware parse sizes engine next r).reply = .httpError 400 "invalid JSON" ∨
    (∃ req, MCPRequest.decode (parse (readAll sizes ⟨r.body, maxBody⟩)) = some req ∧
      req.method = "tools/call" ∧
      (engine.evaluate (callerFromRequest r) (extractToolName req.params)).allowed = false ∧
      (policyMiddleware parse sizes engine next r).reply =
        .policyDenied (engine.evaluate (callerFromRequest r) (extractToolName req.params)).reason) ∨
    ∃ r', (policyMiddleware parse sizes engine next r).reply = (next r').reply := by
  dsimp only [policyMiddleware]
  split
  · exact .inl rfl
  · next req hreq =>
    split
    · next hm =>
      split
      · next hd => exact .inr (.inl ⟨req, hreq, hm, by simpa using hd, rfl⟩)
      · exact .inr (.inr ⟨_, rfl⟩)
    · exact .inr (.inr ⟨_, rfl⟩)

/-- **A 429 names a tool the breaker had tripped.** The only stage that answers 429 is metering,
for the tag it read, and only when the breaker it read had that tag tripped. -/
theorem gateway_rateLimited {parse : List UInt8 → Option JsonValue} {sizes₁ sizes₂ : Nat → Nat}
    {engine : Engine} {cb : CircuitBreaker} {send : Send} {r : Request} {t : String}
    (h : (gateway parse sizes₁ sizes₂ engine cb send r).reply = .rateLimited t) :
    cb.isTripped t = true := by
  rcases policyMiddleware_reply parse sizes₁ engine _ r with h' | ⟨_, -, -, -, h'⟩ | ⟨r', h'⟩ <;>
    rw [gateway, h'] at h
  · cases h
  · cases h
  rcases meteringMiddleware_reply cb _ r' with ⟨t', h', ht⟩ | h' <;> rw [h'] at h
  · cases h
    exact ht
  rcases newMCPHandler_reply parse sizes₂ send r' with ⟨_, _, h'⟩ | ⟨_, _, _, h'⟩ <;>
    rw [metricsMiddleware, h'] at h <;> cases h

/-- What `main` fixes before it serves: `encoding/json`'s scanner, the engine `NewEngine`
loaded, `json.Marshal` of a request envelope and `json.Unmarshal` of a response line in
`SendRequest`, and the library's error texts. -/
structure Config where
  parse : List UInt8 → Option JsonValue
  engine : Engine
  encode : Int → String → Option JsonValue → Option Line
  decode : Line → Option (RpcResponse (Option JsonValue))
  texts : ErrorTexts

/-- A `SendRequest` that is never reached; by `gateway_usesOneAnswer` any other would do. -/
def unsent : Send := fun _ _ => .ok none

/-- An MCP request as its goroutine holds it: the request, how its two body reads split, and
the breaker its metering stage read; and, as ghost, how many webhook requests had been handled
when it read it. -/
structure Arrival where
  request : Request
  sizes₁ : Nat → Nat
  sizes₂ : Nat → Nat
  breaker : CircuitBreaker
  seen : Nat

def Arrival.chain (cfg : Config) (a : Arrival) (send : Send) : Outcome :=
  gateway cfg.parse a.sizes₁ a.sizes₂ cfg.engine a.breaker send a.request

/-- The call the request's chain makes to `SendRequest`, if it gets that far. -/
def Arrival.call (cfg : Config) (a : Arrival) : Option (String × Option JsonValue) :=
  (a.chain cfg unsent).sent

/-- The process: the breaker and the bridge, and the goroutines of the MCP requests, those
blocked on `p.mu` and the one holding it; and, as ghost, every request that arrived, the replies
sent and the webhook bodies handled, in order. -/
structure Server where
  breaker : CircuitBreaker
  bridge : Bridge (Option JsonValue)
  arrived : List Arrival
  waiting : List Nat
  holding : Option Nat
  replies : List (Nat × Outcome)
  signals : List (Option JsonValue)

/-- `main` once `NewMCPProxy` has returned `bridge` and `NewCircuitBreaker` has run. -/
def Server.init (bridge : Bridge (Option JsonValue)) : Server :=
  ⟨newCircuitBreaker, bridge, [], [], none, [], []⟩

inductive ServerEvent where
  /-- An MCP request runs its chain up to `SendRequest`, or to its reply. -/
  | mcp (request : Request) (sizes₁ sizes₂ : Nat → Nat)
  /-- `WebhookHandler` handles a request with this body. -/
  | webhook (body : Option JsonValue)
  /-- The blocked request `i` takes `p.mu` and writes its line. -/
  | lock (i : Nat)
  /-- The holder of `p.mu` reads its answer, replies and unlocks. -/
  | recv
  | serve (response : Line)
  | exit
  | stop

/-- Request `i`'s call returned in bridge state `b`: release `p.mu`, and answer the client with
what the chain makes of the call's return value. -/
def Server.finish (cfg : Config) (S : Server) (i : Nat) (b : Bridge (Option JsonValue)) :
    Option Server := do
  let a ← S.arrived[i]?
  let f ← b.finished.getLast?
  pure { S with bridge := b, holding := none,
                replies := S.replies ++ [(i, a.chain cfg fun _ _ => f.answer cfg.texts)] }

def Server.step (cfg : Config) (S : Server) : ServerEvent → Option Server
  | .mcp request sizes₁ sizes₂ =>
    let a : Arrival := ⟨request, sizes₁, sizes₂, S.breaker, S.signals.length⟩
    let S' := { S with arrived := S.arrived ++ [a] }
    some <| match a.call cfg with
      | none => { S' with replies := S.replies ++ [(S.arrived.length, a.chain cfg unsent)] }
      | some _ => { S' with waiting := S.waiting ++ [S.arrived.length] }
  | .webhook body =>
    some { S with breaker := (webhookHandler S.breaker body).2, signals := S.signals ++ [body] }
  | .lock i =>
    if i ∈ S.waiting ∧ S.bridge.holder.isNone then
      (S.arrived[i]?.bind (Arrival.call cfg)).bind fun c =>
        let b := S.bridge.sendRequest cfg.encode (i + 1) c.1 c.2
        let S' := { S with waiting := S.waiting.erase i }
        if b.holder.isSome then some { S' with bridge := b, holding := some i }
        else S'.finish cfg i b
    else none
  | .recv =>
    S.holding.bind fun i => (S.bridge.step cfg.encode cfg.decode .recv).bind (S.finish cfg i)
  | .serve response =>
    (S.bridge.step cfg.encode cfg.decode (.serve response)).map fun b => { S with bridge := b }
  | .exit => (S.bridge.step cfg.encode cfg.decode .exit).map fun b => { S with bridge := b }
  | .stop => (S.bridge.step cfg.encode cfg.decode .stop).map fun b => { S with bridge := b }

inductive Server.Reachable (cfg : Config) (b₀ : Bridge (Option JsonValue)) : Server → Prop where
  | init : Server.Reachable cfg b₀ (Server.init b₀)
  | step {S T : Server} (e : ServerEvent) :
      Server.Reachable cfg b₀ S → S.step cfg e = some T → Server.Reachable cfg b₀ T

def Server.run (cfg : Config) (S : Server) : List ServerEvent → Option Server
  | [] => some S
  | e :: es => (S.step cfg e).bind fun S' => S'.run cfg es

theorem Server.Reachable.run {cfg : Config} {b₀ : Bridge (Option JsonValue)} :
    ∀ {S T : Server} (es : List ServerEvent), Server.Reachable cfg b₀ S →
      S.run cfg es = some T → Server.Reachable cfg b₀ T
  | _, _, [], hS, h => by cases h; exact hS
  | S, _, e :: es, hS, h => by
    simp only [Server.run, Option.bind_eq_some] at h
    obtain ⟨S', hS', h⟩ := h
    exact Server.Reachable.run es (hS.step e hS') h

/-- A bridge as `NewMCPProxy` returns it: reached from `Bridge.started`, with `p.mu` free, and
every call made so far its own. -/
structure Booted (cfg : Config) (b : Bridge (Option JsonValue)) : Prop where
  reachable : Reachable cfg.encode cfg.decode b
  holder_none : b.holder = none
  callers : ∀ f ∈ b.finished, f.caller = 0

/-- **What `NewMCPProxy` returns is booted.** After `cmd.Start()`, its `initialize` call and
whatever the child does meanwhile (answering lines, exiting; no other caller exists yet), the
read that ends the call leaves `p.mu` free and `initialize` the only call made. -/
theorem booted_of_handshake {cfg : Config} {params : Option JsonValue}
    {child : List (Event (Option JsonValue))} (hchild : ∀ e ∈ child, e.caller = none)
    {b : Bridge (Option JsonValue)}
    (h : Bridge.started.run cfg.encode cfg.decode
      ((.call 0 "initialize" params :: child) ++ [.recv]) = some b) :
    Booted cfg b := by
  have hacc := (Accounted.started (α := Option JsonValue)).run _ h
  have hholder : b.holder = none := by
    rw [Bridge.run_append, Option.bind_eq_some] at h
    obtain ⟨s, -, h⟩ := h
    simp only [Bridge.run, Option.bind_eq_some, Option.some.injEq] at h
    obtain ⟨b', hb', rfl⟩ := h
    obtain ⟨c, id, line, -, hr⟩ := Bridge.step_recv hb'
    exact (s.readResponse_cases cfg.decode hr).1
  have hcallers : b.finished.map (fun f => (f.caller, f.id)) = numbered [0] := by
    have hnil : child.filterMap Event.caller = [] := List.filterMap_eq_nil_iff.2 hchild
    simpa [Bridge.calls, hholder, Event.caller, hnil] using hacc.calls_eq
  refine ⟨Reachable.run _ .start h, hholder, fun f hf => ?_⟩
  have : (f.caller, f.id) ∈ numbered [0] := hcallers ▸ List.mem_map_of_mem _ hf
  simp [numbered] at this
  exact this.1

/-! ### What each step does -/

section Steps

variable {cfg : Config} {S T : Server}

theorem Server.finish_eq_some {i : Nat} {b : Bridge (Option JsonValue)}
    (h : S.finish cfg i b = some T) : ∃ a f, S.arrived[i]? = some a ∧
      b.finished.getLast? = some f ∧
      T = { S with bridge := b, holding := none,
                   replies := S.replies ++ [(i, a.chain cfg fun _ _ => f.answer cfg.texts)] } := by
  simp only [Server.finish, Option.bind_eq_bind, Option.bind_eq_some, Option.pure_def,
    Option.some.injEq] at h
  obtain ⟨a, ha, f, hf, rfl⟩ := h
  exact ⟨a, f, ha, hf, rfl⟩

theorem Server.step_lock {i : Nat} (h : S.step cfg (.lock i) = some T) :
    i ∈ S.waiting ∧ S.bridge.holder = none ∧ ∃ a m p, S.arrived[i]? = some a ∧
      a.call cfg = some (m, p) ∧
      ((S.bridge.sendRequest cfg.encode (i + 1) m p).holder.isSome ∧
        T = { S with waiting := S.waiting.erase i,
                     bridge := S.bridge.sendRequest cfg.encode (i + 1) m p, holding := some i } ∨
       (S.bridge.sendRequest cfg.encode (i + 1) m p).holder = none ∧
        ({ S with waiting := S.waiting.erase i } : Server).finish cfg i
          (S.bridge.sendRequest cfg.encode (i + 1) m p) = some T) := by
  simp only [Server.step] at h
  split at h
  · next hg =>
    obtain ⟨hw, hh⟩ := hg
    simp only [Option.bind_eq_some] at h
    obtain ⟨⟨m, p⟩, ⟨a, ha, hc⟩, h⟩ := h
    refine ⟨hw, Option.isNone_iff_eq_none.1 hh, a, m, p, ha, hc, ?_⟩
    split at h
    · next hs => cases h; exact .inl ⟨hs, rfl⟩
    · next hs => exact .inr ⟨Option.not_isSome_iff_eq_none.1 hs, h⟩
  · cases h

end Steps

end HexStrikeGateway.Gateway
