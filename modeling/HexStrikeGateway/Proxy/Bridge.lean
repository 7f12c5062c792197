import Mathlib.Data.List.Basic
import Mathlib.Data.BitVec

/-!
# The subprocess bridge

`proxy/mcp_proxy.go`: `MCPProxy` owns the backend process and its two pipes. `SendRequest` takes
the mutex, takes the next id, marshals a JSON-RPC request, writes it as one line, reads one line
back and decodes it. `Stop` closes the child's stdin, kills it and waits for it; `Alive` reports
`cmd.ProcessState == nil`.

The bridge is a state machine, `Bridge.step`, over the gateway's side (the id counter, the mutex
holder and its locals, which ends of the pipes are open, the `ProcessState`) and the child's side
(whether it runs, and the bytes in flight on each pipe). Its events are what can happen next:

* `call` — a caller runs `SendRequest` up to its read: lock, id, marshal, write. Nothing another
  thread can see happens between taking the lock and writing, so the four are one step; a caller
  waiting for the lock has no effect until it gets it;
* `recv` — the lock holder's `ReadBytes('\n')`, decode, and return;
* `serve` — the child reads its next request line and writes one response line, any line at
  all, so every backend that answers each line with one line is covered;
* `exit` — the child exits on its own; `stop` — some thread runs `Stop`.

A write to a pipe fails only when one end is closed: ours (after `Stop`) or the child's (it
exited). Either way no byte of the failed write is read by a live child, so a failed write,
partial or not, adds nothing to what the child reads.

The state also carries a ghost record of the run, which the code does not keep: how many calls
began, the lines written with their ids, the lines the child served with its answers, how many
answers were read, and each finished call. `Proxy.Lockstep` states the bridge's invariants over
it.
-/

namespace HexStrikeGateway.Proxy

def newline : UInt8 := 10

/-- One line on a pipe, without its newline. -/
structure Line where
  bytes : List UInt8
  no_newline : newline ∉ bytes

def Line.framed (l : Line) : List UInt8 := l.bytes ++ [newline]

/-- The first line of `bs`, if a newline ends one, and what follows it. -/
def splitLine (bs : List UInt8) : Option (Line × List UInt8) :=
  if newline ∈ bs then
    some (⟨bs.takeWhile (· != newline), fun h => by
      simpa using List.mem_takeWhile_imp h⟩, (bs.dropWhile (· != newline)).tail)
  else none

structure RpcError where
  code : Int
  message : String

/-- `jsonrpcResponse`, as far as `SendRequest` reads it: the result and the error, if any. -/
structure RpcResponse (α : Type) where
  result : α
  error : Option RpcError

/-- Why a pipe operation failed: our end was closed, the child's end was (`EPIPE`), or the
stream ended. -/
inductive PipeError where
  | closed
  | brokenPipe
  | eof
  deriving DecidableEq, Repr

/-- The errors `SendRequest` returns, before `fmt.Errorf` renders them. -/
inductive ProxyError where
  | marshal
  | write (e : PipeError)
  | read (e : PipeError)
  | unmarshal
  | rpc (code : Int) (message : String)
  deriving DecidableEq, Repr

/-- A failure of the pipe itself, on the write or on the read, as against one of the JSON or of
the child's answer. -/
def ProxyError.isTransport : ProxyError → Bool
  | .write _ | .read _ => true
  | _ => false

/-- What `SendRequest` returns for a decoded response line. -/
def interpret {α : Type} : Option (RpcResponse α) → Except ProxyError α
  | none => .error .unmarshal
  | some r => match r.error with
    | some e => .error (.rpc e.code e.message)
    | none => .ok r.result

/-- A line the gateway wrote, with its id and, as ghost, how many calls began before it. -/
structure Written where
  index : Nat
  id : BitVec 64
  line : Line

/-- A call that returned: who made it, its id, the line it wrote (if it wrote one), the index of
the response line it read (if it read one), and what it returned. -/
structure Finished (α : Type) where
  caller : Nat
  id : BitVec 64
  line : Option Line
  got : Option Nat
  outcome : Except ProxyError α

/-- The bridge: `MCPProxy` with its child, then, from `begun` on, the ghost record of the run. -/
structure Bridge (α : Type) where
  /-- `p.nextID`, a Go `int`. -/
  nextID : BitVec 64
  /-- The caller inside `p.mu` after its write, with its id and line, waiting for the answer. -/
  holder : Option (Nat × BitVec 64 × Line)
  stdinOpen : Bool
  /-- Our read end of the child's stdout is open (`Wait` closes it). -/
  stdoutOpen : Bool
  running : Bool
  /-- `cmd.ProcessState` is set, which only `Wait` does. -/
  waited : Bool
  /-- Bytes written to the child's stdin that it has not read. -/
  toChild : List UInt8
  /-- Bytes the child wrote to its stdout that we have not read. -/
  fromChild : List UInt8
  begun : Nat
  /-- Ghost: request lines written whole, in order. -/
  written : List Written
  /-- Ghost: request lines the child read, in order, each with the line it answered. -/
  served : List (Line × Line)
  consumed : Nat
  finished : List (Finished α)

inductive Event (ρ : Type) where
  | call (caller : Nat) (method : String) (params : ρ)
  | recv
  | serve (response : Line)
  | exit
  | stop

variable {ρ α : Type}

/-- The state after `cmd.Start()` in `NewMCPProxy`, before its `initialize` call. -/
def Bridge.started : Bridge α :=
  ⟨1, none, true, true, true, false, [], [], 0, [], [], 0, []⟩

/-- `Alive`: the process was started and has no `ProcessState`. -/
def Bridge.alive (s : Bridge α) : Bool := !s.waited

/-- A call returns without having written a line. -/
def Bridge.fail (s : Bridge α) (caller : Nat) (id : BitVec 64) (e : ProxyError) : Bridge α :=
  { s with finished := s.finished ++ [⟨caller, id, none, none, .error e⟩] }

/-- `SendRequest` from taking the lock up to its read: `id := p.nextID; p.nextID++`, marshal,
write. A call that fails returns here; one that writes keeps the lock until `readResponse`.
`encode` is `json.Marshal` of the request envelope (`none` when it fails). -/
def Bridge.sendRequest (encode : Int → String → ρ → Option Line) (s : Bridge α) (caller : Nat)
    (method : String) (params : ρ) : Bridge α :=
  let id := s.nextID
  let s' := { s with nextID := id + 1, begun := s.begun + 1 }
  match encode id.toInt method params with
  | none => s'.fail caller id .marshal
  | some line =>
    if !s.stdinOpen then s'.fail caller id (.write .closed)
    else if !s.running then s'.fail caller id (.write .brokenPipe)
    else { s' with toChild := s.toChild ++ line.framed,
                   written := s.written ++ [⟨s.begun, id, line⟩],
                   holder := some (caller, id, line) }

/-- The rest of `SendRequest` for the lock holder: `ReadBytes('\n')`, decode, return, unlock.
`decode` is `json.Unmarshal` of a response line. `none` while the read blocks: no whole line
has arrived and the stream is still open. A failed read consumes what it got. -/
def Bridge.readResponse (decode : Line → Option (RpcResponse α)) (s : Bridge α) (caller : Nat)
    (id : BitVec 64) (line : Line) : Option (Bridge α) :=
  match splitLine s.fromChild with
  | some (resp, rest) =>
    some { s with fromChild := rest, consumed := s.consumed + 1, holder := none,
                  finished := s.finished ++
                    [⟨caller, id, some line, some s.consumed, interpret (decode resp)⟩] }
  | none =>
    if s.running && s.stdoutOpen then none
    else
      some { s with fromChild := [], holder := none,
                    finished := s.finished ++ [⟨caller, id, some line, none,
                      .error (.read (if s.stdoutOpen then .eof else .closed))⟩] }

/-- The child reads its next request line and answers it with `response`. -/
def Bridge.serve (s : Bridge α) (response : Line) : Option (Bridge α) :=
  (splitLine s.toChild).map fun (req, rest) =>
    { s with toChild := rest, fromChild := s.fromChild ++ response.framed,
             served := s.served ++ [(req, response)] }

/-- The child exits; what it had not read of its stdin is gone. -/
def Bridge.exit (s : Bridge α) : Bridge α := { s with running := false, toChild := [] }

/-- `Stop`: close the child's stdin, `Kill`, `Wait`. `Wait` sets `ProcessState` and closes our
end of the child's stdout. A second `Stop` changes nothing: every call in it fails. -/
def Bridge.stop (s : Bridge α) : Bridge α :=
  { s with stdinOpen := false, running := false, waited := true, stdoutOpen := false,
           toChild := [], fromChild := [] }

/-- One step; `none` when the event cannot happen now: a `call` while the mutex is held, a
`recv` with no holder or a blocked read, a `serve` or an `exit` with no child. -/
def Bridge.step (encode : Int → String → ρ → Option Line) (decode : Line → Option (RpcResponse α))
    (s : Bridge α) : Event ρ → Option (Bridge α)
  | .call caller method params =>
    if s.holder.isSome then none else some (s.sendRequest encode caller method params)
  | .recv => s.holder.bind fun (caller, id, line) => s.readResponse decode caller id line
  | .serve response => if s.running then s.serve response else none
  | .exit => if s.running then some s.exit else none
  | .stop => some s.stop

def Bridge.run (encode : Int → String → ρ → Option Line) (decode : Line → Option (RpcResponse α))
    (s : Bridge α) : List (Event ρ) → Option (Bridge α)
  | [] => some s
  | e :: es => (s.step encode decode e).bind fun s' => s'.run encode decode es

theorem Bridge.run_append (encode : Int → String → ρ → Option Line)
    (decode : Line → Option (RpcResponse α)) :
    ∀ (s : Bridge α) (es es' : List (Event ρ)),
      s.run encode decode (es ++ es') = (s.run encode decode es).bind fun t => t.run encode decode es'
  | _, [], _ => rfl
  | s, e :: es, es' => by
    simp only [List.cons_append, Bridge.run]
    cases s.step encode decode e with
    | none => rfl
    | some t => exact Bridge.run_append encode decode t es es'

/-- What a step can do: each event, under the guard that lets it happen. -/
theorem Bridge.step_eq_some {encode : Int → String → ρ → Option Line}
    {decode : Line → Option (RpcResponse α)} {s t : Bridge α} {e : Event ρ}
    (h : s.step encode decode e = some t) :
    (∃ c m p, e = .call c m p ∧ s.holder = none ∧ t = s.sendRequest encode c m p) ∨
    (∃ c id line, e = .recv ∧ s.holder = some (c, id, line) ∧
      s.readResponse decode c id line = some t) ∨
    (∃ r, e = .serve r ∧ s.running = true ∧ s.serve r = some t) ∨
    (e = .exit ∧ s.running = true ∧ t = s.exit) ∨
    (e = .stop ∧ t = s.stop) := by
  cases e with
  | call c m p =>
    simp only [Bridge.step] at h
    split at h
    · cases h
    · next hh => cases h; exact .inl ⟨c, m, p, rfl, by simpa using hh, rfl⟩
  | recv =>
    simp only [Bridge.step, Option.bind_eq_some] at h
    obtain ⟨⟨c, id, line⟩, hh, h⟩ := h
    exact .inr (.inl ⟨c, id, line, rfl, hh, h⟩)
  | serve r =>
    simp only [Bridge.step] at h
    split at h
    · next hr => exact .inr (.inr (.inl ⟨r, rfl, hr, h⟩))
    · cases h
  | exit =>
    simp only [Bridge.step] at h
    split at h
    · next hr => cases h; exact .inr (.inr (.inr (.inl ⟨rfl, hr, rfl⟩)))
    · cases h
  | stop => cases h; exact .inr (.inr (.inr (.inr ⟨rfl, rfl⟩)))

inductive Reachable (encode : Int → String → ρ → Option Line)
    (decode : Line → Option (RpcResponse α)) : Bridge α → Prop where
  | start : Reachable encode decode Bridge.started
  | step {s t : Bridge α} (e : Event ρ) :
      Reachable encode decode s → s.step encode decode e = some t → Reachable encode decode t

theorem Reachable.run {encode : Int → String → ρ → Option Line}
    {decode : Line → Option (RpcResponse α)} :
    ∀ {s t : Bridge α} (es : List (Event ρ)), Reachable encode decode s →
      s.run encode decode es = some t → Reachable encode decode t
  | _, _, [], hs, h => by cases h; exact hs
  | s, _, e :: es, hs, h => by
    simp only [Bridge.run, Option.bind_eq_some] at h
    obtain ⟨s', hs', h⟩ := h
    exact Reachable.run es (hs.step e hs') h

/-! ## What a transition leaves alone -/

section Frame

variable (encode : Int → String → ρ → Option Line) (decode : Line → Option (RpcResponse α))
  (s : Bridge α)

/-- `SendRequest`'s write half touches neither the child's side of the pipes nor the process. -/
theorem Bridge.sendRequest_frame (caller : Nat) (method : String) (params : ρ) :
    let t := s.sendRequest encode caller method params
    t.stdinOpen = s.stdinOpen ∧ t.stdoutOpen = s.stdoutOpen ∧ t.running = s.running ∧
      t.waited = s.waited ∧ t.fromChild = s.fromChild ∧ t.served = s.served ∧
      t.consumed = s.consumed ∧ t.nextID = s.nextID + 1 ∧ t.begun = s.begun + 1 := by
  simp only [Bridge.sendRequest]
  split
  · exact ⟨rfl, rfl, rfl, rfl, rfl, rfl, rfl, rfl, rfl⟩
  · split
    · exact ⟨rfl, rfl, rfl, rfl, rfl, rfl, rfl, rfl, rfl⟩
    · split <;> exact ⟨rfl, rfl, rfl, rfl, rfl, rfl, rfl, rfl, rfl⟩

/-- The read half touches neither the process nor what was written. -/
theorem Bridge.readResponse_frame {caller : Nat} {id : BitVec 64} {line : Line} {t : Bridge α}
    (h : s.readResponse decode caller id line = some t) :
    t.stdinOpen = s.stdinOpen ∧ t.stdoutOpen = s.stdoutOpen ∧ t.running = s.running ∧
      t.waited = s.waited ∧ t.toChild = s.toChild ∧ t.served = s.served ∧
      t.written = s.written ∧ t.nextID = s.nextID ∧ t.begun = s.begun := by
  simp only [Bridge.readResponse] at h
  split at h
  · cases h; exact ⟨rfl, rfl, rfl, rfl, rfl, rfl, rfl, rfl, rfl⟩
  · split at h
    · cases h
    · cases h; exact ⟨rfl, rfl, rfl, rfl, rfl, rfl, rfl, rfl, rfl⟩

end Frame

/-! ## After `Stop`

`Stop` closes our end of the child's stdin and sets `ProcessState`, and no transition undoes
either, so `Alive` stays false and every later call fails before it writes. -/

section Stopped

variable {encode : Int → String → ρ → Option Line} {decode : Line → Option (RpcResponse α)}

/-- A stopped bridge: our end of the child's stdin is closed and `ProcessState` is set. -/
def Bridge.Stopped (s : Bridge α) : Prop := s.stdinOpen = false ∧ s.waited = true

theorem Bridge.stopped_stop (s : Bridge α) : s.stop.Stopped := ⟨rfl, rfl⟩

theorem Bridge.Stopped.step {s t : Bridge α} {e : Event ρ} (hs : s.Stopped)
    (h : s.step encode decode e = some t) : t.Stopped := by
  rcases Bridge.step_eq_some h with ⟨c, m, p, -, -, rfl⟩ | ⟨c, id, line, -, -, h⟩ | ⟨r, -, -, h⟩ |
    ⟨-, -, rfl⟩ | ⟨-, rfl⟩
  · obtain ⟨h₁, -, -, h₂, -⟩ := s.sendRequest_frame encode c m p
    exact ⟨h₁.trans hs.1, h₂.trans hs.2⟩
  · obtain ⟨h₁, -, -, h₂, -⟩ := s.readResponse_frame decode h
    exact ⟨h₁.trans hs.1, h₂.trans hs.2⟩
  · simp only [Bridge.serve, Option.map_eq_some'] at h
    obtain ⟨_, -, rfl⟩ := h
    exact hs
  · exact hs
  · exact Bridge.stopped_stop s

theorem Bridge.Stopped.run {s t : Bridge α} (hs : s.Stopped) :
    ∀ es : List (Event ρ), s.run encode decode es = some t → t.Stopped := by
  intro es
  induction es generalizing s with
  | nil => intro h; cases h; exact hs
  | cons e es ih =>
    simp only [Bridge.run, Option.bind_eq_some]
    rintro ⟨s', hs', h⟩
    exact ih (hs.step hs') h

/-- A call on a stopped bridge returns an error at once: marshalling failed, or the write
found the pipe closed. It never takes the lock past its write. -/
theorem Bridge.Stopped.sendRequest {s : Bridge α} (hs : s.Stopped)
    (encode : Int → String → ρ → Option Line) (caller : Nat) (method : String) (params : ρ) :
    ∃ e, (e = .marshal ∨ e = .write .closed) ∧
      s.sendRequest encode caller method params =
        ({ s with nextID := s.nextID + 1, begun := s.begun + 1 } : Bridge α).fail caller s.nextID e := by
  simp only [Bridge.sendRequest, hs.1, Bool.not_false, if_true]
  split
  · exact ⟨_, .inl rfl, rfl⟩
  · exact ⟨_, .inr rfl, rfl⟩

/-- **After `Stop`, `Alive` is false for good, and every call returns an error.** -/
theorem Bridge.after_stop (s : Bridge α) (es : List (Event ρ)) {t : Bridge α}
    (h : s.stop.run encode decode es = some t) :
    t.alive = false ∧ ∀ caller method params, ∃ e, (e = .marshal ∨ e = .write .closed) ∧
      (t.sendRequest encode caller method params).finished =
        t.finished ++ [⟨caller, t.nextID, none, none, .error e⟩] := by
  have ht := (Bridge.stopped_stop s).run es h
  refine ⟨by simp [Bridge.alive, ht.2], fun caller method params => ?_⟩
  obtain ⟨e, he, heq⟩ := ht.sendRequest encode caller method params
  exact ⟨e, he, by rw [heq]; rfl⟩

end Stopped

/-! ## Health reporting

`health.Handler` reports `Alive()`. Only the `Wait` in `Stop` sets `ProcessState`, so a child
that exits on its own leaves `Alive` true, and calls fail with a transport error while the
health endpoint still reports the backend up. -/

structure Status where
  status : String
  gateway : String
  mcp : String
  version : String
  deriving DecidableEq, Repr

/-- The body `health.Handler` encodes, given what `Alive()` returned. -/
def healthStatus (alive : Bool) : Status :=
  let mcpStatus := if alive then "up" else "down"
  ⟨if mcpStatus != "up" then "degraded" else "ok", "up", mcpStatus, "0.2.0"⟩

/-- `{}`, the line the backends below answer every request with. -/
def emptyObject : Line := ⟨[123, 125], by decide⟩

/-- A `json.Marshal` for the runs below: params `true` marshal (to `{}`), `false` fail. -/
def marshalIf (_ : Int) (_ : String) (ok : Bool) : Option Line :=
  if ok then some emptyObject else none

/-- A `json.Unmarshal` for the runs below: every line is a response with a result. -/
def decodeUnit (_ : Line) : Option (RpcResponse Unit) := some ⟨(), none⟩

/-- `NewMCPProxy`'s `initialize` call succeeds; then the child exits, and a `tools/call`
arrives. -/
def crashRun : List (Event Bool) :=
  [.call 0 "initialize" true, .serve emptyObject, .recv, .exit, .call 1 "tools/call" true]

theorem alive_after_backend_exit :
    ∃ s, Bridge.started.run marshalIf decodeUnit crashRun = some s ∧
      s.finished.map Finished.outcome = [.ok (), .error (.write .brokenPipe)] ∧
      s.alive = true ∧ healthStatus s.alive = ⟨"ok", "up", "up", "0.2.0"⟩ :=
  ⟨_, rfl, rfl, rfl, rfl⟩

end HexStrikeGateway.Proxy
