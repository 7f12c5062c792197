import HexStrikeGateway.Proxy.Bridge

/-!
# Every call returns once, every answer is read once

`Proxy.Lockstep` says that a call which read a line read the answer to its own request. This
module adds the accounting around it, over every run of the bridge from `Bridge.started`:

* every `SendRequest` that took the lock returns exactly once, in the order the calls took the
  lock, with the id it was given there; the one still in flight, if any, is the lock holder;
* the response lines the gateway read went one each, in the order read, to calls that returned:
  none was dropped and none was handed to two calls.

`calls_return_once` states both. The two case lemmas below say what each half of `SendRequest`
does to the record of calls; `Gateway.Server` uses them too.
-/

namespace HexStrikeGateway.Proxy

variable {ρ α : Type}

def Event.caller : Event ρ → Option Nat
  | .call c _ _ => some c
  | _ => none

/-- The calls the bridge has begun, in order, with their ids: those that returned, then the lock
holder. -/
def Bridge.calls (s : Bridge α) : List (Nat × BitVec 64) :=
  s.finished.map (fun f => (f.caller, f.id)) ++ (s.holder.map fun h => (h.1, h.2.1)).toList

/-- Callers in the order they took the lock, each with the id `p.nextID` gives it: `k + 1` for
the `k`-th. -/
def numbered (callers : List Nat) : List (Nat × BitVec 64) :=
  callers.mapIdx fun k c => (c, BitVec.ofNat 64 (k + 1))

theorem numbered_concat (callers : List Nat) (c : Nat) :
    numbered (callers ++ [c]) = numbered callers ++ [(c, BitVec.ofNat 64 (callers.length + 1))] :=
  List.mapIdx_concat

/-! ## What each half of `SendRequest` records -/

section Cases

variable (encode : Int → String → ρ → Option Line) (decode : Line → Option (RpcResponse α))
  (s : Bridge α)

/-- The write half either wrote the encoding of its request under the next id and holds the
lock, or returned at once with a marshalling or stream error. -/
theorem Bridge.sendRequest_cases (c : Nat) (m : String) (p : ρ) :
    let t := s.sendRequest encode c m p
    (∃ line, encode s.nextID.toInt m p = some line ∧ t.holder = some (c, s.nextID, line) ∧
      t.finished = s.finished ∧ t.written = s.written ++ [⟨s.begun, s.nextID, line⟩]) ∨
    (∃ e, (e = .marshal ∨ e.isTransport = true) ∧ t.holder = s.holder ∧ t.written = s.written ∧
      t.finished = s.finished ++ [⟨c, s.nextID, none, none, .error e⟩]) := by
  simp only [Bridge.sendRequest]
  split
  · exact .inr ⟨_, .inl rfl, rfl, rfl, rfl⟩
  · next line hline =>
    split
    · exact .inr ⟨.write .closed, .inr rfl, rfl, rfl, rfl⟩
    · split
      · exact .inr ⟨.write .brokenPipe, .inr rfl, rfl, rfl, rfl⟩
      · exact .inl ⟨line, hline, rfl, rfl, rfl⟩

/-- The read half releases the lock and records one returned call, which either read the next
response line or read none. -/
theorem Bridge.readResponse_cases {c : Nat} {id : BitVec 64} {line : Line} {t : Bridge α}
    (h : s.readResponse decode c id line = some t) :
    t.holder = none ∧ t.nextID = s.nextID ∧ t.written = s.written ∧
      ∃ got out, t.finished = s.finished ++ [⟨c, id, some line, got, out⟩] ∧
        ((got = some s.consumed ∧ t.consumed = s.consumed + 1) ∨
          (got = none ∧ t.consumed = s.consumed)) := by
  simp only [Bridge.readResponse] at h
  split at h
  · cases h; exact ⟨rfl, rfl, rfl, _, _, rfl, .inl ⟨rfl, rfl⟩⟩
  · split at h
    · cases h
    · cases h; exact ⟨rfl, rfl, rfl, _, _, rfl, .inr ⟨rfl, rfl⟩⟩

end Cases

/-- A read step is the read half of the lock holder's call. -/
theorem Bridge.step_recv {encode : Int → String → ρ → Option Line}
    {decode : Line → Option (RpcResponse α)} {s t : Bridge α}
    (h : s.step encode decode .recv = some t) :
    ∃ c id line, s.holder = some (c, id, line) ∧ s.readResponse decode c id line = some t := by
  simpa only [Bridge.step, Option.bind_eq_some, Prod.exists] using h

/-! ## The accounting invariant -/

/-- The calls begun are `callers`, numbered from `1`, the next id is the one after, and the
response lines read went to returned calls in the order read. -/
structure Accounted (s : Bridge α) (callers : List Nat) : Prop where
  calls_eq : s.calls = numbered callers
  nextID_eq : s.nextID = BitVec.ofNat 64 (callers.length + 1)
  delivered : s.finished.filterMap Finished.got = List.range s.consumed

section Accounting

variable {encode : Int → String → ρ → Option Line} {decode : Line → Option (RpcResponse α)}
  {s : Bridge α} {callers : List Nat}

theorem Accounted.started : Accounted (Bridge.started : Bridge α) [] := ⟨rfl, rfl, rfl⟩

theorem Accounted.sendRequest (hs : Accounted s callers) (hh : s.holder = none) (c : Nat)
    (m : String) (p : ρ) : Accounted (s.sendRequest encode c m p) (callers ++ [c]) := by
  obtain ⟨-, -, -, -, -, -, hk, hid, -⟩ := s.sendRequest_frame encode c m p
  have hcalls : s.finished.map (fun f => (f.caller, f.id)) = numbered callers := by
    simpa [Bridge.calls, hh] using hs.calls_eq
  refine ⟨?_, by simp [hid, hs.nextID_eq, BitVec.ofNat_add], ?_⟩
  · rw [numbered_concat, ← hcalls, ← hs.nextID_eq]
    rcases s.sendRequest_cases encode c m p with ⟨line, -, hh', hf, -⟩ | ⟨e, -, hh', -, hf⟩
    · simp [Bridge.calls, hh', hf]
    · simp [Bridge.calls, hh', hh, hf]
  · rcases s.sendRequest_cases encode c m p with ⟨line, -, -, hf, -⟩ | ⟨e, -, -, -, hf⟩
    · rw [hf, hk, hs.delivered]
    · simp [hf, hk, hs.delivered]

theorem Accounted.readResponse (hs : Accounted s callers) {c : Nat} {id : BitVec 64}
    {line : Line} (hh : s.holder = some (c, id, line)) {t : Bridge α}
    (h : s.readResponse decode c id line = some t) : Accounted t callers := by
  obtain ⟨hh', hid, -, got, out, hf, hgot⟩ := s.readResponse_cases decode h
  refine ⟨?_, hid ▸ hs.nextID_eq, ?_⟩
  · rw [← hs.calls_eq]
    simp [Bridge.calls, hh, hh', hf]
  · rw [hf, List.filterMap_append, hs.delivered]
    rcases hgot with ⟨rfl, hk⟩ | ⟨rfl, hk⟩
    · simp [hk, List.range_succ]
    · simp [hk]

/-- One step adds the caller of a `call` to the record, and nothing else. -/
theorem Accounted.step (hs : Accounted s callers) {e : Event ρ} {t : Bridge α}
    (h : s.step encode decode e = some t) : Accounted t (callers ++ e.caller.toList) := by
  rcases Bridge.step_eq_some h with ⟨c, m, p, rfl, hh, rfl⟩ | ⟨c, id, line, rfl, hh, h⟩ |
    ⟨r, rfl, -, h⟩ | ⟨rfl, -, rfl⟩ | ⟨rfl, rfl⟩ <;>
    simp only [Event.caller, Option.toList, List.append_nil]
  · exact hs.sendRequest hh c m p
  · exact hs.readResponse hh h
  · simp only [Bridge.serve, Option.map_eq_some'] at h
    obtain ⟨_, -, rfl⟩ := h
    exact ⟨hs.1, hs.2, hs.3⟩
  · exact ⟨hs.1, hs.2, hs.3⟩
  · exact ⟨hs.1, hs.2, hs.3⟩

theorem Accounted.run (hs : Accounted s callers) :
    ∀ {t : Bridge α} (es : List (Event ρ)), s.run encode decode es = some t →
      Accounted t (callers ++ es.filterMap Event.caller) := by
  intro t es
  induction es generalizing s callers with
  | nil => intro h; cases h; simpa using hs
  | cons e es ih =>
    simp only [Bridge.run, Option.bind_eq_some]
    rintro ⟨s', hs', h⟩
    have := ih (hs.step hs') h
    cases e <;> simpa [Event.caller] using this

/-- **Every call returns once; every answer is read once.** After any run of the bridge from
`Bridge.started`, the calls that returned, followed by the lock holder, are exactly the callers
of the run's `call` events in order, the `k`-th with id `k + 1`; and the indices of the response
lines the returned calls read are `0, 1, …` up to the number of lines read, each once, in order. -/
theorem calls_return_once {es : List (Event ρ)} {s : Bridge α}
    (h : Bridge.started.run encode decode es = some s) :
    s.calls = numbered (es.filterMap Event.caller) ∧
      s.finished.filterMap Finished.got = List.range s.consumed := by
  have hs := (Accounted.started (α := α)).run es h
  rw [List.nil_append] at hs
  exact ⟨hs.calls_eq, hs.delivered⟩

/-- Three callers: the first is answered, the second's params do not marshal, and the third
holds the lock when `Stop` runs, so its read fails. -/
def stoppedRun : List (Event Bool) :=
  [.call 1 "tools/call" true, .serve emptyObject, .recv, .call 2 "tools/call" false,
    .call 3 "tools/call" true, .stop, .recv]

theorem calls_return_once_stopped :
    ∃ s, Bridge.started.run marshalIf decodeUnit stoppedRun = some s ∧
      (s.calls = numbered (stoppedRun.filterMap Event.caller) ∧
        s.finished.filterMap Finished.got = List.range s.consumed) :=
  ⟨_, rfl, @calls_return_once _ _ marshalIf decodeUnit _ _ rfl⟩

end Accounting

/-! ## What a call returns to its caller -/

/-- The texts of the errors `SendRequest` wraps, which come from the standard library. -/
structure ErrorTexts where
  marshal : String
  /-- What a write or read on a pipe returned (`io.EOF` reads `EOF`). -/
  pipe : PipeError → String
  unmarshal : String

/-- `err.Error()` of an error `SendRequest` returned, in its `fmt.Errorf` formats. -/
def ProxyError.error (texts : ErrorTexts) : ProxyError → String
  | .marshal => "marshal request: " ++ texts.marshal
  | .write e => "write request: " ++ texts.pipe e
  | .read e => "read response: " ++ texts.pipe e
  | .unmarshal => "unmarshal response: " ++ texts.unmarshal
  | .rpc code message => "rpc error " ++ toString code ++ ": " ++ message

/-- What the handler gets from a call that returned: the result, or the text of the error. -/
def Finished.answer (texts : ErrorTexts) (f : Finished α) : Except String α :=
  f.outcome.mapError (ProxyError.error texts)

end HexStrikeGateway.Proxy
