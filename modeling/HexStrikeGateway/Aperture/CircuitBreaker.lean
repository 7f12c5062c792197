import HexStrikeGateway.Json
import Mathlib.Logic.Function.Basic

/-!
# The circuit breaker and its webhook

`aperture/webhook.go`: a map from tool name to tripped, set by `Trip`, cleared by `Reset`, read
by `IsTripped`, and driven by `WebhookHandler`, which decodes one `WebhookEvent` per request and
trips, resets or ignores according to its action.

The breaker's lock only makes each operation atomic, so a run of webhook requests is a sequence
of handler steps, `webhookRun`. Its law (`webhook_last_signal_wins`) is that a tool is tripped
exactly when the last request that named it with a `trip` or `reset` said `trip`; everything
else a request can carry is a no-op for that tool.
-/

namespace HexStrikeGateway.Aperture

open HexStrikeGateway.JsonValue

/-- `CircuitBreaker`: the `tripped` map, absent keys as `none`. -/
structure CircuitBreaker where
  tripped : String → Option Bool

def newCircuitBreaker : CircuitBreaker := ⟨fun _ => none⟩

def CircuitBreaker.isTripped (cb : CircuitBreaker) (toolName : String) : Bool :=
  (cb.tripped toolName).getD false

def CircuitBreaker.trip (cb : CircuitBreaker) (toolName : String) : CircuitBreaker :=
  ⟨Function.update cb.tripped toolName (some true)⟩

def CircuitBreaker.reset (cb : CircuitBreaker) (toolName : String) : CircuitBreaker :=
  ⟨Function.update cb.tripped toolName none⟩

structure WebhookEvent where
  type : String
  toolName : String
  action : String

/-- `json.Decoder.Decode` into a `WebhookEvent`, from the first value the decoder scans
(`none` when the body holds no JSON value). -/
def WebhookEvent.decode : Option JsonValue → Option WebhookEvent
  | some .null => some ⟨"", "", ""⟩
  | some (.obj ms) => do
    let type ← stringField "type" ms ""
    let toolName ← stringField "tool_name" ms ""
    let action ← stringField "action" ms ""
    pure ⟨type, toolName, action⟩
  | _ => none

/-- `WebhookHandler` on one request: the status it answers and the breaker afterwards. -/
def webhookHandler (cb : CircuitBreaker) (body : Option JsonValue) : Nat × CircuitBreaker :=
  match WebhookEvent.decode body with
  | none => (400, cb)
  | some event =>
    if event.action = "trip" then (200, cb.trip event.toolName)
    else if event.action = "reset" then (200, cb.reset event.toolName)
    else (200, cb)

/-- A run of webhook requests, one after another. -/
def webhookRun (cb : CircuitBreaker) : List (Option JsonValue) → CircuitBreaker
  | [] => cb
  | body :: bodies => webhookRun (webhookHandler cb body).2 bodies

/-! ## Frame and idempotence -/

@[simp] theorem isTripped_trip (cb : CircuitBreaker) (t u : String) :
    (cb.trip t).isTripped u = if u = t then true else cb.isTripped u := by
  by_cases h : u = t
  · subst h; simp [CircuitBreaker.trip, CircuitBreaker.isTripped]
  · simp [CircuitBreaker.trip, CircuitBreaker.isTripped, h]

@[simp] theorem isTripped_reset (cb : CircuitBreaker) (t u : String) :
    (cb.reset t).isTripped u = if u = t then false else cb.isTripped u := by
  by_cases h : u = t
  · subst h; simp [CircuitBreaker.reset, CircuitBreaker.isTripped]
  · simp [CircuitBreaker.reset, CircuitBreaker.isTripped, h]

theorem trip_trip (cb : CircuitBreaker) (t : String) : (cb.trip t).trip t = cb.trip t := by
  simp [CircuitBreaker.trip]

theorem reset_reset (cb : CircuitBreaker) (t : String) : (cb.reset t).reset t = cb.reset t := by
  simp [CircuitBreaker.reset]

/-! ## Runs -/

/-- The action a request sets tool `t` to: its body decodes to an event for `t` whose action is
`trip` or `reset`. -/
def signalFor (t : String) (body : Option JsonValue) : Option String :=
  match WebhookEvent.decode body with
  | some event =>
    if event.toolName = t ∧ (event.action = "trip" ∨ event.action = "reset") then
      some event.action
    else none
  | none => none

/-- The last action a run sets tool `t` to. -/
def lastSignal (t : String) : List (Option JsonValue) → Option String
  | [] => none
  | body :: bodies => (lastSignal t bodies).or (signalFor t body)

/-- One request moves tool `t` only as its signal for `t` says. -/
theorem isTripped_webhookHandler (cb : CircuitBreaker) (body : Option JsonValue) (t : String) :
    (webhookHandler cb body).2.isTripped t =
      ((signalFor t body).map (· == "trip")).getD (cb.isTripped t) := by
  unfold webhookHandler signalFor
  cases WebhookEvent.decode body with
  | none => rfl
  | some event =>
    by_cases ht : event.toolName = t
    · subst ht
      by_cases h1 : event.action = "trip"
      · simp [h1]
      · by_cases h2 : event.action = "reset" <;> simp [h1, h2]
    · have ht' : t ≠ event.toolName := Ne.symm ht
      by_cases h1 : event.action = "trip"
      · simp [h1, ht, ht']
      · by_cases h2 : event.action = "reset" <;> simp [h1, h2, ht, ht']

theorem isTripped_webhookRun (t : String) :
    ∀ (bodies : List (Option JsonValue)) (cb : CircuitBreaker),
      (webhookRun cb bodies).isTripped t =
        ((lastSignal t bodies).map (· == "trip")).getD (cb.isTripped t)
  | [], _ => rfl
  | body :: bodies, cb => by
    rw [webhookRun, isTripped_webhookRun t bodies, isTripped_webhookHandler, lastSignal]
    cases lastSignal t bodies <;> rfl

/-- **The last signal wins.** On a fresh breaker, after any run of webhook requests a tool is
tripped exactly when the last request naming it with `trip` or `reset` said `trip`. A request
that carries no such signal for the tool (another tool, another action, or a body that does not
decode, answered 400) leaves it as it was, and a repeated `Trip` or `Reset` changes nothing. -/
theorem webhook_last_signal_wins (bodies : List (Option JsonValue)) (t : String) :
    ((webhookRun newCircuitBreaker bodies).isTripped t = true ↔
      lastSignal t bodies = some "trip") ∧
    (∀ cb body, signalFor t body = none →
      (webhookHandler cb body).2.isTripped t = cb.isTripped t) ∧
    (∀ cb body, WebhookEvent.decode body = none → webhookHandler cb body = (400, cb)) ∧
    (∀ cb : CircuitBreaker, (cb.trip t).trip t = cb.trip t ∧ (cb.reset t).reset t = cb.reset t) := by
  refine ⟨?_, fun cb body h => by rw [isTripped_webhookHandler, h]; rfl,
    fun cb body h => by simp [webhookHandler, h], fun cb => ⟨trip_trip cb t, reset_reset cb t⟩⟩
  rw [isTripped_webhookRun]
  cases lastSignal t bodies with
  | none => simp [newCircuitBreaker, CircuitBreaker.isTripped]
  | some a => simp

end HexStrikeGateway.Aperture
