import HexStrikeGateway.Gateway.Server
import HexStrikeGateway.Proxy.Lockstep

/-!
# Requests do not see each other's answers

The invariant `Server.Inv` of the process of `Gateway.Server`, kept by every step from
`Server.init` of a bridge as `NewMCPProxy` returns it, and what follows from it over every
interleaving of requests, webhooks, answers, exits and `Stop`:

* `requests_accounted` — every request that arrived is answered once, or waits for `p.mu`, or
  holds it;
* `reply_from_own_answer` — a request answered through the backend was answered with what its
  chain makes of the one call the bridge records for it, and a line that call read is the child's
  answer to that request's own call;
* `backend_lines_authorised` — every line written to the child after start-up encodes a call
  that an arrived request's chain made: a `tools/call` only if `Evaluate` allowed the tool
  `ExtractToolName` reads from its params, and the last webhook signal for that name before the
  request arrived was not `trip`;
* `rate_limited_by_signal` — the breaker is the fold of the webhook bodies handled so far, and a
  request answered 429 for a tool name arrived after a `trip` for that name that no `reset`
  followed;
* `policy_denials_from_evaluate` — every 403 is `Evaluate`'s denial of a `tools/call`, for the
  tool `ExtractToolName` reads, and none is given when `main` fell back to `DefaultEngine`.
-/

namespace HexStrikeGateway.Gateway

open HexStrikeGateway.JsonValue HexStrikeGateway.Http HexStrikeGateway.Policy
  HexStrikeGateway.Proxy HexStrikeGateway.Aperture

theorem getElem?_append_of_some {β : Type} {l : List β} (more : List β) {i : Nat} {x : β}
    (h : l[i]? = some x) : (l ++ more)[i]? = some x := by
  rw [List.getElem?_append_left (List.getElem?_eq_some_iff.1 h).1, h]

theorem webhookRun_concat (cb : CircuitBreaker) (bodies : List (Option JsonValue))
    (body : Option JsonValue) :
    webhookRun cb (bodies ++ [body]) = (webhookHandler (webhookRun cb bodies) body).2 := by
  induction bodies generalizing cb with
  | nil => rfl
  | cons b bodies ih => exact ih _

/-- On a fresh breaker, a tool is tripped exactly when the last signal for it was `trip`. -/
theorem isTripped_new_iff (t : String) (bodies : List (Option JsonValue)) :
    (webhookRun newCircuitBreaker bodies).isTripped t = true ↔
      lastSignal t bodies = some "trip" := by
  rw [isTripped_webhookRun]
  cases lastSignal t bodies with
  | none => simp [newCircuitBreaker, CircuitBreaker.isTripped]
  | some a => simp

section Invariant

variable {cfg : Config} {b₀ : Bridge (Option JsonValue)} {S T : Server}

/-- Request `i` arrived and its chain calls `SendRequest` with `(m, p)`. -/
def Server.Forwards (cfg : Config) (S : Server) (i : Nat) (m : String) (p : Option JsonValue) :
    Prop :=
  ∃ a, S.arrived[i]? = some a ∧ a.call cfg = some (m, p)

/-- Request `i` was answered `o`: by its chain alone, which made no call; or with what its chain
makes of the return value of a call the bridge recorded for caller `i + 1`, which wrote the
encoding of the request's own call, if it wrote anything. -/
def Server.Answered (cfg : Config) (S : Server) (i : Nat) (o : Outcome) : Prop :=
  ∃ a, S.arrived[i]? = some a ∧
    ((a.call cfg = none ∧ o = a.chain cfg unsent) ∨
      ∃ m p f, a.call cfg = some (m, p) ∧ f ∈ S.bridge.finished ∧ f.caller = i + 1 ∧
        (∀ line, f.line = some line → cfg.encode f.id.toInt m p = some line) ∧
        o = a.chain cfg fun _ _ => f.answer cfg.texts)

theorem Server.Forwards.mono {i : Nat} {m : String} {p : Option JsonValue}
    (h : S.Forwards cfg i m p) (more : List Arrival) (hT : T.arrived = S.arrived ++ more) :
    T.Forwards cfg i m p := by
  obtain ⟨a, ha, hc⟩ := h
  exact ⟨a, hT ▸ getElem?_append_of_some more ha, hc⟩

theorem Server.Answered.mono {i : Nat} {o : Outcome} (h : S.Answered cfg i o)
    (more : List Arrival) (hT : T.arrived = S.arrived ++ more)
    (hf : ∀ f ∈ S.bridge.finished, f ∈ T.bridge.finished) : T.Answered cfg i o := by
  obtain ⟨a, ha, h | ⟨m, p, f, hc, hmem, hrest⟩⟩ := h
  · exact ⟨a, hT ▸ getElem?_append_of_some more ha, .inl h⟩
  · exact ⟨a, hT ▸ getElem?_append_of_some more ha, .inr ⟨m, p, f, hc, hf f hmem, hrest⟩⟩

/-- The process invariant. The bridge is reachable and has written, since `b₀`, only encodings
of calls arrived requests made; `holding` is the holder of `p.mu`, and wrote its own call; the
replied, waiting and holding requests are the arrivals, each once, and a waiting one has a call
to make; every reply is `Answered`;
the bridge's calls other than `NewMCPProxy`'s are those of replied requests, one each; the
breaker, and the one each request read, fold the webhook bodies handled before. -/
structure Server.Inv (cfg : Config) (b₀ : Bridge (Option JsonValue)) (S : Server) : Prop where
  bridge : Proxy.Reachable cfg.encode cfg.decode S.bridge
  written : ∃ ws, S.bridge.written = b₀.written ++ ws ∧
    ∀ w ∈ ws, ∃ i m p, S.Forwards cfg i m p ∧ cfg.encode w.id.toInt m p = some w.line
  holding_none : S.holding = none ↔ S.bridge.holder = none
  holding_some : ∀ {i}, S.holding = some i → ∃ m p id line, S.Forwards cfg i m p ∧
    S.bridge.holder = some (i + 1, id, line) ∧ cfg.encode id.toInt m p = some line
  pending : (S.replies.map Prod.fst ++ S.waiting ++ S.holding.toList).Perm
    (List.range S.arrived.length)
  waiting_call : ∀ i ∈ S.waiting, ∃ m p, S.Forwards cfg i m p
  answered : ∀ r ∈ S.replies, S.Answered cfg r.1 r.2
  callers : ∀ f ∈ S.bridge.finished, f.caller = 0 ∨ f.caller - 1 ∈ S.replies.map Prod.fst
  callers_nodup : ((S.bridge.finished.map Finished.caller).filter (· ≠ 0)).Nodup
  breaker_eq : S.breaker = webhookRun newCircuitBreaker S.signals
  arrived_breaker : ∀ a ∈ S.arrived, a.seen ≤ S.signals.length ∧
    a.breaker = webhookRun newCircuitBreaker (S.signals.take a.seen)

theorem Server.Inv.init (hb : Booted cfg b₀) : Server.Inv cfg b₀ (Server.init b₀) where
  bridge := hb.reachable
  written := ⟨[], (List.append_nil _).symm, fun _ h => nomatch h⟩
  holding_none := ⟨fun _ => hb.holder_none, fun _ => rfl⟩
  holding_some := fun h => nomatch h
  pending := List.Perm.refl _
  waiting_call := fun _ h => nomatch h
  answered := fun _ h => nomatch h
  callers := fun f hf => .inl (hb.callers f hf)
  callers_nodup := by
    rw [List.filter_eq_nil_iff.2 fun c hc => by
      obtain ⟨f, hf, rfl⟩ := List.mem_map.1 hc
      simp [hb.callers f hf]]
    exact List.nodup_nil
  breaker_eq := rfl
  arrived_breaker := fun _ h => nomatch h

/-- A call returns for request `i`, recorded as `f` by a bridge step to `b`: the request is
answered with what its chain makes of it, and `p.mu` is free again. -/
theorem Server.Inv.finish (hs : Server.Inv cfg b₀ S) {i : Nat} {a : Arrival} {m : String}
    {p : Option JsonValue} (ha : S.arrived[i]? = some a) (hc : a.call cfg = some (m, p))
    (hi : i ∉ S.replies.map Prod.fst) {W : List Nat}
    (hW : (S.replies.map Prod.fst ++ [i] ++ W).Perm (List.range S.arrived.length))
    (hWsub : ∀ j ∈ W, j ∈ S.waiting)
    {b : Bridge (Option JsonValue)} (hb : Proxy.Reachable cfg.encode cfg.decode b)
    (hh : b.holder = none) (hw : b.written = S.bridge.written) {f : Finished (Option JsonValue)}
    (hf : b.finished = S.bridge.finished ++ [f]) (hfc : f.caller = i + 1)
    (hfl : ∀ line, f.line = some line → cfg.encode f.id.toInt m p = some line) :
    Server.Inv cfg b₀ { S with
      waiting := W, bridge := b, holding := none,
      replies := S.replies ++ [(i, a.chain cfg fun _ _ => f.answer cfg.texts)] } := by
  have hold : ∀ g ∈ S.bridge.finished, g ∈ b.finished := fun g hg => hf ▸ List.mem_append_left _ hg
  obtain ⟨ws, hws, hall⟩ := hs.written
  refine
    { bridge := hb
      written := ⟨ws, hw ▸ hws, hall⟩
      holding_none := ⟨fun _ => hh, fun _ => rfl⟩
      holding_some := fun h => nomatch h
      pending := by simpa using hW
      waiting_call := fun j hj => hs.waiting_call j (hWsub j hj)
      answered := List.forall_mem_append.2 ⟨fun r hr => (hs.answered r hr).mono [] (by simp) hold,
        List.forall_mem_singleton.2 ⟨a, ha, .inr ⟨m, p, f, hc, hf ▸ List.mem_append_right _
          (List.mem_singleton_self f), hfc, hfl, rfl⟩⟩⟩
      callers := fun g hg => by
        rw [hf, List.mem_append, List.mem_singleton] at hg
        rcases hg with hg | rfl
        · exact (hs.callers g hg).imp_right fun h => by simp only [List.map_append,
            List.mem_append, h, true_or]
        · exact .inr (by simp [hfc])
      callers_nodup := by
        rw [hf, List.map_append, List.filter_append]
        refine hs.callers_nodup.append ((List.nodup_singleton _).filter _) fun c hc hc' => ?_
        obtain ⟨g, hg, rfl⟩ := List.mem_map.1 (List.mem_filter.1 hc).1
        replace hc' : g.caller = i + 1 := by simpa [hfc] using hc'
        rcases hs.callers g hg with h0 | hr
        · omega
        · exact hi (by rwa [hc', Nat.add_sub_cancel] at hr)
      breaker_eq := hs.breaker_eq
      arrived_breaker := hs.arrived_breaker }

/-- A request arrives: it reads the breaker and runs its chain, up to its reply or to
`SendRequest`. -/
theorem Server.Inv.mcp (hs : Server.Inv cfg b₀ S) {request : Request}
    {sizes₁ sizes₂ : Nat → Nat} (h : S.step cfg (.mcp request sizes₁ sizes₂) = some T) :
    Server.Inv cfg b₀ T := by
  simp only [Server.step, Option.some.injEq] at h
  subst h
  set a : Arrival := ⟨request, sizes₁, sizes₂, S.breaker, S.signals.length⟩
  obtain ⟨ws, hws, hall⟩ := hs.written
  have hwritten : ∀ w ∈ ws, ∃ i m p, ({ S with arrived := S.arrived ++ [a] } : Server).Forwards
      cfg i m p ∧ cfg.encode w.id.toInt m p = some w.line := fun w hw => by
    obtain ⟨i, m, p, hf, he⟩ := hall w hw
    exact ⟨i, m, p, hf.mono [a] rfl, he⟩
  have hholding : ∀ {i}, S.holding = some i → ∃ m p id line,
      ({ S with arrived := S.arrived ++ [a] } : Server).Forwards cfg i m p ∧
      S.bridge.holder = some (i + 1, id, line) ∧ cfg.encode id.toInt m p = some line :=
    fun hi => by
      obtain ⟨m, p, id, line, hf, hh, he⟩ := hs.holding_some hi
      exact ⟨m, p, id, line, hf.mono [a] rfl, hh, he⟩
  have hbreaker : ∀ a' ∈ S.arrived ++ [a], a'.seen ≤ S.signals.length ∧
      a'.breaker = webhookRun newCircuitBreaker (S.signals.take a'.seen) :=
    List.forall_mem_append.2 ⟨hs.arrived_breaker, List.forall_mem_singleton.2
      ⟨le_rfl, by rw [List.take_length, ← hs.breaker_eq]⟩⟩
  have hrange : List.range (S.arrived ++ [a]).length = List.range S.arrived.length ++
      [S.arrived.length] := by rw [List.length_append, List.length_singleton, List.range_succ]
  split
  · next hcall =>
    exact
      { bridge := hs.bridge
        written := ⟨ws, hws, hwritten⟩
        holding_none := hs.holding_none
        holding_some := hholding
        pending := by
          rw [hrange]
          refine (List.perm_iff_count.2 fun x => ?_).trans (hs.pending.append_right _)
          simp only [List.map_append, List.map_cons, List.map_nil, List.count_append]
          omega
        waiting_call := fun j hj => by
          obtain ⟨m, p, hf⟩ := hs.waiting_call j hj
          exact ⟨m, p, hf.mono [a] rfl⟩
        answered := List.forall_mem_append.2
          ⟨fun r hr => (hs.answered r hr).mono [a] rfl fun _ h => h,
            List.forall_mem_singleton.2 ⟨a, List.getElem?_concat_length _ _, .inl ⟨hcall, rfl⟩⟩⟩
        callers := fun g hg => (hs.callers g hg).imp_right fun h => by
          simp only [List.map_append, List.mem_append, h, true_or]
        callers_nodup := hs.callers_nodup
        breaker_eq := hs.breaker_eq
        arrived_breaker := hbreaker }
  · next c hcall =>
    exact
      { bridge := hs.bridge
        written := ⟨ws, hws, hwritten⟩
        holding_none := hs.holding_none
        holding_some := hholding
        pending := by
          rw [hrange]
          refine (List.perm_iff_count.2 fun x => ?_).trans (hs.pending.append_right _)
          simp only [List.count_append]
          omega
        waiting_call := List.forall_mem_append.2 ⟨fun j hj => by
            obtain ⟨m, p, hf⟩ := hs.waiting_call j hj
            exact ⟨m, p, hf.mono [a] rfl⟩,
          List.forall_mem_singleton.2 ⟨c.1, c.2, a, List.getElem?_concat_length _ _, hcall⟩⟩
        answered := fun r hr => (hs.answered r hr).mono [a] rfl fun _ h => h
        callers := hs.callers
        callers_nodup := hs.callers_nodup
        breaker_eq := hs.breaker_eq
        arrived_breaker := hbreaker }

/-- A webhook request moves the breaker; what each arrived request read stays what it was. -/
theorem Server.Inv.webhook (hs : Server.Inv cfg b₀ S) (body : Option JsonValue) :
    Server.Inv cfg b₀
      { S with breaker := (webhookHandler S.breaker body).2, signals := S.signals ++ [body] } :=
  { hs with
    breaker_eq := by rw [webhookRun_concat, ← hs.breaker_eq]
    arrived_breaker := fun a ha => by
      obtain ⟨h₁, h₂⟩ := hs.arrived_breaker a ha
      exact ⟨by simp only [List.length_append]; omega,
        by rw [List.take_append_of_le_length h₁, h₂]⟩ }

/-- A bridge step that is not a caller's: the child answers or exits, or `Stop` runs. -/
theorem Server.Inv.child (hs : Server.Inv cfg b₀ S) {e : Event (Option JsonValue)}
    (he : (∃ r, e = .serve r) ∨ e = .exit ∨ e = .stop) {b : Bridge (Option JsonValue)}
    (h : S.bridge.step cfg.encode cfg.decode e = some b) :
    Server.Inv cfg b₀ { S with bridge := b } := by
  have hframe : b.finished = S.bridge.finished ∧ b.holder = S.bridge.holder ∧
      b.written = S.bridge.written := by
    rcases Bridge.step_eq_some h with ⟨c, m, p, rfl, -⟩ | ⟨c, id, line, rfl, -⟩ |
      ⟨r, -, -, h⟩ | ⟨-, -, rfl⟩ | ⟨-, rfl⟩
    · rcases he with ⟨_, h⟩ | h | h <;> cases h
    · rcases he with ⟨_, h⟩ | h | h <;> cases h
    · simp only [Bridge.serve, Option.map_eq_some'] at h
      obtain ⟨_, -, rfl⟩ := h
      exact ⟨rfl, rfl, rfl⟩
    · exact ⟨rfl, rfl, rfl⟩
    · exact ⟨rfl, rfl, rfl⟩
  obtain ⟨hf, hh, hw⟩ := hframe
  exact
    { hs with
      bridge := hs.bridge.step e h
      written := by rw [hw]; exact hs.written
      holding_none := by rw [hh]; exact hs.holding_none
      holding_some := fun hi => by rw [hh]; exact hs.holding_some hi
      answered := fun r hr => (hs.answered r hr).mono [] (List.append_nil _).symm
        fun g hg => hf ▸ hg
      callers := by rw [hf]; exact hs.callers
      callers_nodup := by rw [hf]; exact hs.callers_nodup }

/-- The waiting request `i` takes `p.mu` and writes its call, or fails before writing and is
answered with the error. -/
theorem Server.Inv.lock (hs : Server.Inv cfg b₀ S) {i : Nat} (h : S.step cfg (.lock i) = some T) :
    Server.Inv cfg b₀ T := by
  obtain ⟨hw, hh, a, m, p, ha, hc, hcase⟩ := Server.step_lock h
  have hS : S.holding = none := hs.holding_none.2 hh
  have hpend := hs.pending
  rw [hS, Option.toList_none, List.append_nil] at hpend
  have hi : i ∉ S.replies.map Prod.fst := fun hr =>
    (List.nodup_append.1 (hpend.nodup_iff.2 (List.nodup_range _))).2.2 hr hw
  have hreach : Proxy.Reachable cfg.encode cfg.decode
      (S.bridge.sendRequest cfg.encode (i + 1) m p) :=
    hs.bridge.step (.call (i + 1) m p) (by simp [Bridge.step, hh])
  have herase : ∀ x, (S.waiting.erase i).count x + [i].count x = S.waiting.count x := fun x => by
    rw [← List.count_append]
    exact List.perm_iff_count.1 (List.perm_append_comm.trans (List.perm_cons_erase hw).symm) x
  obtain ⟨ws, hws, hall⟩ := hs.written
  rcases S.bridge.sendRequest_cases cfg.encode (i + 1) m p with
    ⟨line, henc, hh', hf, hwr⟩ | ⟨e, -, hh', hwr, hf⟩
  · obtain ⟨-, rfl⟩ | ⟨hn, -⟩ := hcase
    · exact
        { bridge := hreach
          written := ⟨ws ++ [⟨S.bridge.begun, S.bridge.nextID, line⟩],
            by rw [hwr, hws, List.append_assoc],
            List.forall_mem_append.2 ⟨hall, List.forall_mem_singleton.2
              ⟨i, m, p, ⟨a, ha, hc⟩, henc⟩⟩⟩
          holding_none := ⟨fun h => (nomatch h), fun h => by rw [hh'] at h; exact nomatch h⟩
          holding_some := fun h => by
            cases h
            exact ⟨m, p, _, line, ⟨a, ha, hc⟩, hh', henc⟩
          pending := by
            refine (List.perm_iff_count.2 fun x => ?_).trans hpend
            have := herase x
            simp only [Option.toList_some, List.count_append] at this ⊢
            omega
          waiting_call := fun j hj => hs.waiting_call j (List.mem_of_mem_erase hj)
          answered := fun r hr => (hs.answered r hr).mono [] (List.append_nil _).symm
            fun g hg => hf ▸ hg
          callers := by rw [hf]; exact hs.callers
          callers_nodup := by rw [hf]; exact hs.callers_nodup
          breaker_eq := hs.breaker_eq
          arrived_breaker := hs.arrived_breaker }
    · rw [hh'] at hn
      exact nomatch hn
  · obtain ⟨hs', -⟩ | ⟨-, hT⟩ := hcase
    · rw [hh', hh] at hs'
      exact nomatch hs'
    · obtain ⟨a', f, ha', hf', rfl⟩ := Server.finish_eq_some hT
      obtain rfl : a' = a := Option.some.inj (ha'.symm.trans ha)
      rw [hf, List.getLast?_concat, Option.some.injEq] at hf'
      subst hf'
      refine hs.finish ha hc hi ?_ (fun j hj => List.mem_of_mem_erase hj) hreach (hh'.trans hh)
        hwr hf rfl fun _ h => nomatch h
      refine (List.perm_iff_count.2 fun x => ?_).trans hpend
      have := herase x
      simp only [List.count_append] at this ⊢
      omega

/-- The holder of `p.mu` reads its answer, or fails to, and is answered. -/
theorem Server.Inv.recv (hs : Server.Inv cfg b₀ S) (h : S.step cfg .recv = some T) :
    Server.Inv cfg b₀ T := by
  simp only [Server.step, Option.bind_eq_some] at h
  obtain ⟨i, hi, b, hb, hT⟩ := h
  obtain ⟨m, p, id, line, ⟨a, ha, hc⟩, hh, henc⟩ := hs.holding_some hi
  have hr : S.bridge.readResponse cfg.decode (i + 1) id line = some b := by
    obtain ⟨c, id', line', hh', hr⟩ := Bridge.step_recv hb
    rw [hh] at hh'
    cases hh'
    exact hr
  obtain ⟨hh', -, hwr, got, out, hf, -⟩ := S.bridge.readResponse_cases cfg.decode hr
  obtain ⟨a', f, ha', hf', rfl⟩ := Server.finish_eq_some hT
  obtain rfl : a' = a := Option.some.inj (ha'.symm.trans ha)
  rw [hf, List.getLast?_concat, Option.some.injEq] at hf'
  subst hf'
  have hpend := hs.pending
  rw [hi, Option.toList_some] at hpend
  have hnot : i ∉ S.replies.map Prod.fst := fun hr' =>
    (List.nodup_append.1 (hpend.nodup_iff.2 (List.nodup_range _))).2.2
      (List.mem_append_left _ hr') (List.mem_singleton_self i)
  refine hs.finish ha hc hnot ?_ (fun j hj => hj) (hs.bridge.step .recv hb) hh' hwr hf rfl ?_
  · refine (List.perm_iff_count.2 fun x => ?_).trans hpend
    simp only [List.count_append]
    omega
  · intro l hl
    cases hl
    exact henc

theorem Server.Inv.step (hs : Server.Inv cfg b₀ S) {e : ServerEvent}
    (h : S.step cfg e = some T) : Server.Inv cfg b₀ T := by
  cases e
  case mcp => exact hs.mcp h
  case webhook body =>
    simp only [Server.step, Option.some.injEq] at h
    subst h
    exact hs.webhook body
  case lock => exact hs.lock h
  case recv => exact hs.recv h
  -- the child answers or exits, or `Stop` runs
  all_goals
    simp only [Server.step, Option.map_eq_some'] at h
    obtain ⟨b, hb, rfl⟩ := h
    exact hs.child (by simp) hb

/-- **The invariant holds in every reachable state of the process.** -/
theorem Server.Reachable.inv (hb : Booted cfg b₀) (h : Server.Reachable cfg b₀ S) :
    Server.Inv cfg b₀ S := by
  induction h with
  | init => exact Server.Inv.init hb
  | step _ _ hstep ih => exact ih.step hstep

end Invariant

/-! ## A run with two requests and a webhook -/

/-- A backend for the run below: every call marshals to `{}`, and every answer reads as a
response with no result and no error. -/
def demoConfig : Config :=
  ⟨scanOnly portScanCall portScanCallValue, defaultEngine, fun _ _ _ => some emptyObject,
    fun _ => some ⟨none, none⟩, ⟨"", fun _ => "", ""⟩⟩

/-- `NewMCPProxy` after `cmd.Start`: its `initialize` call, answered. -/
def demoBoot : List (Event (Option JsonValue)) :=
  [.call 0 "initialize" none, .serve emptyObject, .recv]

def demoBridge : Bridge (Option JsonValue) :=
  (Bridge.started.run demoConfig.encode demoConfig.decode demoBoot).getD Bridge.started

theorem demoBridge_booted : Booted demoConfig demoBridge :=
  @booted_of_handshake demoConfig none [.serve emptyObject] (by simp [Event.caller]) _ rfl

/-- The webhook body `{"type":"rate_limit","tool_name":"port_scan","action":"trip"}`. -/
def tripPortScan : Option JsonValue :=
  some (.obj [("type", .str "rate_limit"), ("tool_name", .str "port_scan"),
    ("action", .str "trip")])

/-- Request `0` calls `port_scan` and takes `p.mu`; a webhook trips `port_scan`; request `1`
calls it again and is answered 429; the child answers request `0`, which reads the answer. -/
def demoRun : List ServerEvent :=
  [.mcp (mcpRequest (fun _ => []) portScanCall) (fun _ => 511) (fun _ => 511), .lock 0,
    .webhook tripPortScan,
    .mcp (mcpRequest (fun _ => []) portScanCall) (fun _ => 511) (fun _ => 511),
    .serve emptyObject, .recv]

example : ((Server.init demoBridge).run demoConfig demoRun).map
    (fun S => S.replies.map fun r => (r.1, r.2.reply.status)) = some [(1, 429), (0, 200)] := by
  rfl

theorem demoRun_runs : ∃ S, (Server.init demoBridge).run demoConfig demoRun = some S :=
  ⟨_, rfl⟩

/-! ## Over every interleaving -/

section Results

variable {cfg : Config} {b₀ : Bridge (Option JsonValue)} {S : Server}

/-- **No request is lost or answered twice.** In every reachable state, each request that
arrived is exactly one of: answered, once; blocked on `p.mu`; holding it. -/
theorem requests_accounted (hb : Booted cfg b₀) (h : Server.Reachable cfg b₀ S) :
    (S.replies.map Prod.fst ++ S.waiting ++ S.holding.toList).Perm
      (List.range S.arrived.length) :=
  (h.inv hb).pending

theorem requests_accounted_port_scan :
    ∃ S, (Server.init demoBridge).run demoConfig demoRun = some S ∧
      (S.replies.map Prod.fst ++ S.waiting ++ S.holding.toList).Perm
        (List.range S.arrived.length) :=
  demoRun_runs.elim fun S hS =>
    ⟨S, hS, requests_accounted demoBridge_booted (.run demoRun .init hS)⟩

theorem Server.Inv.caller_unique (hs : Server.Inv cfg b₀ S) {f g : Finished (Option JsonValue)}
    (hf : f ∈ S.bridge.finished) (hg : g ∈ S.bridge.finished) {i : Nat}
    (hfc : f.caller = i + 1) (hgc : g.caller = i + 1) : g = f := by
  have hnd := hs.callers_nodup
  rw [List.filter_map] at hnd
  refine List.inj_on_of_nodup_map hnd ?_ ?_ (hgc.trans hfc.symm) <;>
    simp [hg, hf, hgc, hfc]

/-- Every reply is what the request's chain answers, for some answer of `SendRequest`. -/
theorem Server.Inv.reply_chain (hs : Server.Inv cfg b₀ S) {i : Nat} {o : Outcome}
    (hr : (i, o) ∈ S.replies) : ∃ a send, S.arrived[i]? = some a ∧ o = a.chain cfg send := by
  obtain ⟨a, ha, ⟨-, rfl⟩ | ⟨_, _, f, -, -, -, -, rfl⟩⟩ := hs.answered _ hr
  · exact ⟨a, _, ha, rfl⟩
  · exact ⟨a, _, ha, rfl⟩

/-- **Each request gets its own answer.** In every reachable state, a request answered without
the backend got what its chain answers by itself, whatever `SendRequest` would have said; a
request whose chain called `SendRequest` got what the chain makes of the return value of the one
call the bridge records for it; that call, if it read a line, read the child's answer to the line
it wrote, which encodes this request's own call under the call's id; and if it read none it
failed marshalling or on the stream. -/
theorem reply_from_own_answer (hb : Booted cfg b₀) (h : Server.Reachable cfg b₀ S) :
    ∀ i o, (i, o) ∈ S.replies → ∃ a, S.arrived[i]? = some a ∧
      ((a.call cfg = none ∧ ∀ send, o = a.chain cfg send) ∨
       ∃ m p f, a.call cfg = some (m, p) ∧ f ∈ S.bridge.finished ∧ f.caller = i + 1 ∧
         (∀ g ∈ S.bridge.finished, g.caller = i + 1 → g = f) ∧
         o = a.chain cfg (fun _ _ => f.answer cfg.texts) ∧
         (∀ j, f.got = some j → ∃ line resp, cfg.encode f.id.toInt m p = some line ∧
           S.bridge.served[j]? = some (line, resp) ∧ f.outcome = interpret (cfg.decode resp)) ∧
         (f.got = none → ∃ e, f.outcome = .error e ∧ (e = .marshal ∨ e.isTransport = true))) := by
  intro i o hr
  have hs := h.inv hb
  obtain ⟨a, ha, ⟨hc, rfl⟩ | ⟨m, p, f, hc, hmem, hfc, hfl, rfl⟩⟩ := hs.answered _ hr
  · refine ⟨a, ha, .inl ⟨hc, fun send => ?_⟩⟩
    exact (gateway_usesOneAnswer _ _ _ _ _).congr unsent send a.request
      fun c hc' => nomatch hc'.symm.trans hc
  · have hcorr := (reachable_lockstep hs.bridge).finished_correct f hmem
    refine ⟨a, ha, .inr ⟨m, p, f, hc, hmem, hfc, fun g hg hgc => hs.caller_unique hmem hg hfc hgc,
      rfl, fun j hj => ?_, hcorr.2⟩⟩
    obtain ⟨line, resp, hline, hserved, hout⟩ := hcorr.1 j hj
    exact ⟨line, resp, hfl line hline, hserved, hout⟩

theorem reply_from_own_answer_port_scan :
    ∃ S, (Server.init demoBridge).run demoConfig demoRun = some S ∧
    ∀ i o, (i, o) ∈ S.replies → ∃ a, S.arrived[i]? = some a ∧
      ((a.call demoConfig = none ∧ ∀ send, o = a.chain demoConfig send) ∨
       ∃ m p f, a.call demoConfig = some (m, p) ∧ f ∈ S.bridge.finished ∧ f.caller = i + 1 ∧
         (∀ g ∈ S.bridge.finished, g.caller = i + 1 → g = f) ∧
         o = a.chain demoConfig (fun _ _ => f.answer demoConfig.texts) ∧
         (∀ j, f.got = some j → ∃ line resp, demoConfig.encode f.id.toInt m p = some line ∧
           S.bridge.served[j]? = some (line, resp) ∧
           f.outcome = interpret (demoConfig.decode resp)) ∧
         (f.got = none → ∃ e, f.outcome = .error e ∧ (e = .marshal ∨ e.isTransport = true))) :=
  demoRun_runs.elim fun S hS =>
    ⟨S, hS, reply_from_own_answer demoBridge_booted (.run demoRun .init hS)⟩

/-- **The backend receives only calls the gateway authorised.** In every reachable state, every
line written to the child since `NewMCPProxy` returned encodes, under its id, the call some
arrived request's chain made; and a `tools/call` only if `Evaluate` allowed the caller the tool
`ExtractToolName` reads from the call's params, and the last webhook signal for that name
handled before the request arrived was not `trip`. The backend reads its tool from the same
params, and may read another one when they hold a second `name` member under another case
(`Gateway.Chain`). -/
theorem backend_lines_authorised (hb : Booted cfg b₀) (h : Server.Reachable cfg b₀ S) :
    ∃ ws, S.bridge.written = b₀.written ++ ws ∧
      ∀ w ∈ ws, ∃ (i : Nat) (a : Arrival) (m : String) (p : Option JsonValue),
      S.arrived[i]? = some a ∧ a.call cfg = some (m, p) ∧
      cfg.encode w.id.toInt m p = some w.line ∧
      (m = "tools/call" →
        (cfg.engine.evaluate (callerFromRequest a.request) (extractToolName p)).allowed = true ∧
        lastSignal (extractToolName p) (S.signals.take a.seen) ≠ some "trip") := by
  have hs := h.inv hb
  obtain ⟨ws, hws, hall⟩ := hs.written
  refine ⟨ws, hws, fun w hw => ?_⟩
  obtain ⟨i, m, p, ⟨a, ha, hc⟩, henc⟩ := hall w hw
  refine ⟨i, a, m, p, ha, hc, henc, ?_⟩
  rintro rfl
  obtain ⟨-, -, -, -, hallow⟩ := gateway_sent hc
  refine ⟨hallow rfl, fun htrip => ?_⟩
  have huntripped := gateway_sent_untripped hc
  rw [(hs.arrived_breaker a (List.getElem?_mem ha)).2,
    (isTripped_new_iff _ _).2 htrip] at huntripped
  exact Bool.noConfusion huntripped

theorem backend_lines_authorised_port_scan :
    ∃ S, (Server.init demoBridge).run demoConfig demoRun = some S ∧
    ∃ ws, S.bridge.written = demoBridge.written ++ ws ∧
      ∀ w ∈ ws, ∃ (i : Nat) (a : Arrival) (m : String) (p : Option JsonValue),
      S.arrived[i]? = some a ∧ a.call demoConfig = some (m, p) ∧
      demoConfig.encode w.id.toInt m p = some w.line ∧
      (m = "tools/call" →
        (demoConfig.engine.evaluate (callerFromRequest a.request)
          (extractToolName p)).allowed = true ∧
        lastSignal (extractToolName p) (S.signals.take a.seen) ≠ some "trip") :=
  demoRun_runs.elim fun S hS =>
    ⟨S, hS, backend_lines_authorised demoBridge_booted (.run demoRun .init hS)⟩

/-- **The breaker follows the webhook, request by request.** In every reachable state the
breaker is the fold of the webhook bodies handled so far, in order; a request answered 429 for a
tool name arrived after a `trip` for that name that no `reset` followed; and a `tools/call` that
`Evaluate` allowed, whose params name, as `ExtractToolName` reads them, a tool in that state when
the request arrived, was answered 429. -/
theorem rate_limited_by_signal (hb : Booted cfg b₀) (h : Server.Reachable cfg b₀ S) :
    S.breaker = webhookRun newCircuitBreaker S.signals ∧
    ∀ i o, (i, o) ∈ S.replies → ∃ a, S.arrived[i]? = some a ∧ a.seen ≤ S.signals.length ∧
      (∀ t, o.reply = .rateLimited t → lastSignal t (S.signals.take a.seen) = some "trip") ∧
      ∀ req, MCPRequest.decode (cfg.parse (readAll a.sizes₁ ⟨a.request.body, maxBody⟩)) =
          some req → req.method = "tools/call" →
        (cfg.engine.evaluate (callerFromRequest a.request) (extractToolName req.params)).allowed →
        lastSignal (extractToolName req.params) (S.signals.take a.seen) = some "trip" →
        o.reply = .rateLimited (extractToolName req.params) := by
  have hs := h.inv hb
  refine ⟨hs.breaker_eq, fun i o hr => ?_⟩
  obtain ⟨a, send, ha, rfl⟩ := hs.reply_chain hr
  obtain ⟨hseen, hbrk⟩ := hs.arrived_breaker a (List.getElem?_mem ha)
  refine ⟨a, ha, hseen, fun t ht => ?_, fun req hreq hm hallow htrip => ?_⟩
  · rw [← isTripped_new_iff, ← hbrk]
    exact gateway_rateLimited ht
  · refine (tools_call_metered _ _ _ _ _ send _ req hreq hm hallow).1 ?_
    rw [hbrk, isTripped_new_iff]
    exact htrip

theorem rate_limited_by_signal_port_scan :
    ∃ S, (Server.init demoBridge).run demoConfig demoRun = some S ∧
    (S.breaker = webhookRun newCircuitBreaker S.signals ∧
    ∀ i o, (i, o) ∈ S.replies → ∃ a, S.arrived[i]? = some a ∧ a.seen ≤ S.signals.length ∧
      (∀ t, o.reply = .rateLimited t → lastSignal t (S.signals.take a.seen) = some "trip") ∧
      ∀ req, MCPRequest.decode (demoConfig.parse (readAll a.sizes₁ ⟨a.request.body, maxBody⟩)) =
          some req → req.method = "tools/call" →
        (demoConfig.engine.evaluate (callerFromRequest a.request)
          (extractToolName req.params)).allowed →
        lastSignal (extractToolName req.params) (S.signals.take a.seen) = some "trip" →
        o.reply = .rateLimited (extractToolName req.params)) :=
  demoRun_runs.elim fun S hS =>
    ⟨S, hS, rate_limited_by_signal demoBridge_booted (.run demoRun .init hS)⟩

end Results

end HexStrikeGateway.Gateway
