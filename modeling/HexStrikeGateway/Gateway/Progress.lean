import HexStrikeGateway.Gateway.Isolation

/-!
# Every pending request can finish

Deadlock freedom of the process of `Gateway.Server`: from every reachable state, the goroutines
of the requests that have arrived can all finish, one after another on `p.mu`, without any new
request, webhook request, exit or `Stop`, and with a child that answers every line with the same
`r` (any line at all) while it runs; after a child exit or `Stop` they finish with the error
their read or write gets. So no request waits for good on the mutex, and the lock holder's read
never waits for an answer that was lost or read by another (`requests_complete`).

The proof follows the two ways a goroutine moves: the lock holder reads (`holder_completes`,
from `Lockstep.holder_completes`), and a waiting request takes the lock and then reads, or fails
before it writes (`waiting_completes`). An induction on the waiting requests finishes them all.
-/

namespace HexStrikeGateway.Gateway

open HexStrikeGateway.JsonValue HexStrikeGateway.Http HexStrikeGateway.Policy
  HexStrikeGateway.Proxy HexStrikeGateway.Aperture

section Progress

variable {cfg : Config} {b₀ : Bridge (Option JsonValue)} {S T : Server}

theorem Server.run_append (cfg : Config) :
    ∀ (S : Server) (es es' : List ServerEvent),
      S.run cfg (es ++ es') = (S.run cfg es).bind fun T => T.run cfg es'
  | _, [], _ => rfl
  | S, e :: es, es' => by
    simp only [List.cons_append, Server.run]
    cases S.step cfg e with
    | none => rfl
    | some T => exact Server.run_append cfg T es es'

theorem Server.Inv.run (hs : Server.Inv cfg b₀ S) :
    ∀ (es : List ServerEvent), S.run cfg es = some T → Server.Inv cfg b₀ T := by
  intro es
  induction es generalizing S with
  | nil => intro h; cases h; exact hs
  | cons e es ih =>
    simp only [Server.run, Option.bind_eq_some]
    rintro ⟨S', hS', h⟩
    exact ih (hs.step hS') h

/-- The events by which arrived requests finish: a waiting request takes `p.mu`, the holder
reads, or the child answers a line with `r`. -/
def Finishing (r : Line) (e : ServerEvent) : Prop :=
  (∃ i, e = .lock i) ∨ e = .recv ∨ e = .serve r

/-- What finishing leaves alone: no request arrives, and `p.mu` ends free. -/
def Server.Settles (S T : Server) (waiting : List Nat) : Prop :=
  T.holding = none ∧ T.waiting = waiting ∧ T.arrived = S.arrived

/-- A call that returned in bridge state `b` answers its request. -/
theorem Server.finish_isSome {i : Nat} {a : Arrival} (ha : S.arrived[i]? = some a)
    {b : Bridge (Option JsonValue)} {f : Finished (Option JsonValue)}
    (hf : b.finished.getLast? = some f) :
    ∃ T, S.finish cfg i b = some T ∧ T.holding = none ∧ T.waiting = S.waiting ∧
      T.arrived = S.arrived :=
  ⟨{ S with bridge := b, holding := none,
             replies := S.replies ++ [(i, a.chain cfg fun _ _ => f.answer cfg.texts)] },
    by simp [Server.finish, ha, hf], rfl, rfl, rfl⟩

theorem Bridge.recv_finished {b b' : Bridge (Option JsonValue)}
    (h : b.step cfg.encode cfg.decode .recv = some b') : ∃ f, b'.finished.getLast? = some f := by
  obtain ⟨c, id, line, -, hr⟩ := Bridge.step_recv h
  obtain ⟨-, -, -, got, out, hf, -⟩ := b.readResponse_cases cfg.decode hr
  exact ⟨_, by rw [hf, List.getLast?_concat]⟩

/-- **The lock holder finishes**: it reads now, or after the child answers its line. -/
theorem Server.Inv.holder_completes (hs : Server.Inv cfg b₀ S) {i : Nat}
    (hi : S.holding = some i) (r : Line) :
    ∃ es T, S.run cfg es = some T ∧ S.Settles T S.waiting ∧ ∀ e ∈ es, Finishing r e := by
  obtain ⟨m, p, id, line, ⟨a, ha, -⟩, hh, -⟩ := hs.holding_some hi
  rcases @Lockstep.holder_completes _ _ cfg.encode _ _ (reachable_lockstep hs.bridge) _ _ _ hh
    r with ⟨b, hb⟩ | ⟨b, b', hb, hb'⟩
  · obtain ⟨f, hf⟩ := Bridge.recv_finished hb
    obtain ⟨T, hT, hT'⟩ := @Server.finish_isSome cfg S i a ha b f hf
    refine ⟨[.recv], T, ?_, hT', by simp [Finishing]⟩
    simp [Server.run, Server.step, hi, hb, hT]
  · obtain ⟨f, hf⟩ := Bridge.recv_finished hb'
    obtain ⟨T, hT, hT'⟩ := @Server.finish_isSome cfg { S with bridge := b } i a ha b' f hf
    refine ⟨[.serve r, .recv], T, ?_, hT', by simp [Finishing]⟩
    rw [hi] at hT
    simp [Server.run, Server.step, hi, hb, hb', hT]

/-- **A waiting request finishes** once `p.mu` is free: it takes the lock and writes, then reads;
or it fails before writing and is answered at once. -/
theorem Server.Inv.waiting_completes (hs : Server.Inv cfg b₀ S) (hfree : S.holding = none)
    {i : Nat} (hw : i ∈ S.waiting) (r : Line) :
    ∃ es T, S.run cfg es = some T ∧ S.Settles T (S.waiting.erase i) ∧ ∀ e ∈ es, Finishing r e := by
  obtain ⟨m, p, a, ha, hc⟩ := hs.waiting_call i hw
  have hh := hs.holding_none.1 hfree
  let b := S.bridge.sendRequest cfg.encode (i + 1) m p
  have hguard : (i ∈ S.waiting ∧ S.bridge.holder.isNone = true) := ⟨hw, by simp [hh]⟩
  by_cases hheld : b.holder.isSome
  · let U : Server := { S with waiting := S.waiting.erase i, bridge := b, holding := some i }
    have hU : S.step cfg (.lock i) = some U := by
      simp only [Server.step, if_pos hguard, ha, Option.some_bind, hc]
      exact if_pos hheld
    obtain ⟨es, T, hT, ⟨h₁, h₂, h₃⟩, hfin⟩ := (hs.step hU).holder_completes (i := i) rfl r
    refine ⟨.lock i :: es, T, ?_, ⟨h₁, h₂, h₃⟩, ?_⟩
    · simp only [Server.run, hU, Option.some_bind, hT]
    · simpa [Finishing] using hfin
  · obtain ⟨f, hf⟩ : ∃ f, b.finished.getLast? = some f := by
      rcases S.bridge.sendRequest_cases cfg.encode (i + 1) m p with
        ⟨_, -, hh', -⟩ | ⟨e, -, -, -, hf⟩
      · exact absurd (by rw [hh']; rfl) hheld
      · exact ⟨_, by rw [hf, List.getLast?_concat]⟩
    obtain ⟨T, hT, hT'⟩ :=
      @Server.finish_isSome cfg { S with waiting := S.waiting.erase i } i a ha b f hf
    refine ⟨[.lock i], T, ?_, hT', by simp [Finishing]⟩
    simp only [Server.run, Server.step, if_pos hguard, ha, Option.some_bind, hc]
    rw [if_neg hheld]
    simp [hT]

/-- With `p.mu` free, all waiting requests finish, in turn. -/
theorem Server.Inv.all_waiting_complete (r : Line) :
    ∀ (n : Nat) {S : Server}, Server.Inv cfg b₀ S → S.holding = none → S.waiting.length = n →
      ∃ es T, S.run cfg es = some T ∧ S.Settles T [] ∧ ∀ e ∈ es, Finishing r e
  | 0, S, hs, hfree, hn => ⟨[], S, rfl, ⟨hfree, List.eq_nil_of_length_eq_zero hn, rfl⟩,
      fun _ h => nomatch h⟩
  | n + 1, S, hs, hfree, hn => by
    obtain ⟨i, hw⟩ : ∃ i, i ∈ S.waiting := List.exists_mem_of_length_pos (by omega)
    obtain ⟨es, U, hU, ⟨h₁, h₂, h₃⟩, hfin⟩ := hs.waiting_completes hfree hw r
    obtain ⟨es', T, hT, ⟨h₁', h₂', h₃'⟩, hfin'⟩ :=
      Server.Inv.all_waiting_complete r n (hs.run es hU) h₁
        (by rw [h₂, List.length_erase_of_mem hw, hn]; rfl)
    refine ⟨es ++ es', T, by rw [Server.run_append, hU, Option.some_bind, hT], ⟨h₁', h₂',
      h₃'.trans h₃⟩, fun e he => ?_⟩
    rcases List.mem_append.1 he with he | he
    · exact hfin e he
    · exact hfin' e he

/-- **Deadlock freedom.** From every reachable state of the process, with a child that answers
every line with `r` while it runs, the requests that have arrived can all finish by their own
steps alone (taking `p.mu`, the child's answers, reads): no new request, webhook, exit or `Stop`
is needed, and at the end every arrived request has been answered, once. -/
theorem requests_complete (hb : Booted cfg b₀) (h : Server.Reachable cfg b₀ S) (r : Line) :
    ∃ es T, S.run cfg es = some T ∧ (∀ e ∈ es, (∃ i, e = .lock i) ∨ e = .recv ∨ e = .serve r) ∧
      T.arrived = S.arrived ∧ T.waiting = [] ∧ T.holding = none ∧
      (T.replies.map Prod.fst).Perm (List.range S.arrived.length) := by
  have hs := h.inv hb
  obtain ⟨es₀, U, hU, ⟨hfree, -, hUa⟩, hfin₀⟩ :
      ∃ es T, S.run cfg es = some T ∧ S.Settles T S.waiting ∧ ∀ e ∈ es, Finishing r e := by
    cases hi : S.holding with
    | none => exact ⟨[], S, rfl, ⟨hi, rfl, rfl⟩, fun _ h => nomatch h⟩
    | some i => exact hs.holder_completes hi r
  have hsU := hs.run es₀ hU
  obtain ⟨es, T, hT, ⟨h₁, h₂, h₃⟩, hfin⟩ := hsU.all_waiting_complete r _ hfree rfl
  have hpend := (hsU.run es hT).pending
  rw [h₁, h₂, h₃, hUa, Option.toList_none, List.append_nil, List.append_nil] at hpend
  refine ⟨es₀ ++ es, T, by rw [Server.run_append, hU, Option.some_bind, hT], fun e he => ?_,
    h₃.trans hUa, h₂, h₁, hpend⟩
  rcases List.mem_append.1 he with he | he
  · exact hfin₀ e he
  · exact hfin e he

theorem requests_complete_port_scan :
    ∃ S, (Server.init demoBridge).run demoConfig (demoRun.take 4) = some S ∧
    ∃ es T, S.run demoConfig es = some T ∧
      (∀ e ∈ es, (∃ i, e = .lock i) ∨ e = .recv ∨ e = .serve emptyObject) ∧
      T.arrived = S.arrived ∧ T.waiting = [] ∧ T.holding = none ∧
      (T.replies.map Prod.fst).Perm (List.range S.arrived.length) :=
  ⟨_, rfl, requests_complete demoBridge_booted (Server.Reachable.run (demoRun.take 4) .init rfl)
    emptyObject⟩

end Progress

end HexStrikeGateway.Gateway
