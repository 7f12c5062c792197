import HexStrikeGateway.Proxy.Bridge

/-!
# Lock-step correlation of the bridge

`SendRequest` never compares the id of the response with that of the request: a caller gets its
own answer only because calls are serialised by the mutex and the child answers lines in the
order it reads them. `Lockstep` is the invariant of `Bridge.step` that makes this precise: at
most one written line is unanswered, each pipe holds exactly the lines still in flight on it, the
lock holder's line is the last one written, and every call that read a line read the answer to
its own. It holds in every reachable state (`reachable_lockstep`), whatever the callers, the
backend's answers, and the points at which calls fail, the child exits or `Stop` runs.

The ids come from `p.nextID`, a Go `int`: `BitVec 64` here. They increase while fewer than
`2^63` calls have begun; the next call after that is given `-2^63` (`write_ids_wrap`).
-/

namespace HexStrikeGateway.Proxy

variable {ρ α : Type}

/-! ## Lines on a pipe -/

def framedAll (ls : List Line) : List UInt8 := ls.flatMap Line.framed

@[simp] theorem framedAll_nil : framedAll [] = [] := rfl

@[simp] theorem framedAll_append (ls ls' : List Line) :
    framedAll (ls ++ ls') = framedAll ls ++ framedAll ls' :=
  List.flatMap_append ls ls' Line.framed

@[simp] theorem framedAll_singleton (l : Line) : framedAll [l] = l.framed := by
  simp [framedAll]

theorem framed_split (bs rest : List UInt8) (h : newline ∉ bs) :
    (bs ++ newline :: rest).takeWhile (· != newline) = bs ∧
      (bs ++ newline :: rest).dropWhile (· != newline) = newline :: rest := by
  induction bs with
  | nil => simp
  | cons b bs ih =>
    have hb : b ≠ newline := fun e => h (by simp [e])
    obtain ⟨h₁, h₂⟩ := ih (fun e => h (List.mem_cons_of_mem _ e))
    simp [List.takeWhile_cons, List.dropWhile_cons, hb, h₁, h₂]

theorem splitLine_framed_append (l : Line) (rest : List UInt8) :
    splitLine (l.framed ++ rest) = some (l, rest) := by
  obtain ⟨h₁, h₂⟩ := framed_split l.bytes rest l.no_newline
  simp [splitLine, Line.framed, h₁, h₂]

theorem splitLine_framedAll (ls : List Line) :
    splitLine (framedAll ls) = ls.head?.map fun l => (l, framedAll ls.tail) := by
  cases ls with
  | nil => simp [splitLine]
  | cons l ls => exact splitLine_framed_append l (framedAll ls)

theorem toInt_ofNat_of_lt {k : Nat} (hk : k < 2 ^ 63) : (BitVec.ofNat 64 k).toInt = k := by
  rw [BitVec.toInt_eq_toNat_cond, BitVec.toNat_ofNat, Nat.mod_eq_of_lt (by omega),
    if_pos (by omega)]

/-! ## The invariant -/

/-- A finished call is correct against the child's answers so far: if it read a line, that line
answered its own request and the call returned what it decodes to; if it read none, it failed
marshalling or on the stream. -/
def Finished.Correct (decode : Line → Option (RpcResponse α)) (served : List (Line × Line))
    (f : Finished α) : Prop :=
  (∀ j, f.got = some j → ∃ line resp, f.line = some line ∧ served[j]? = some (line, resp) ∧
    f.outcome = interpret (decode resp)) ∧
  (f.got = none → ∃ e, f.outcome = .error e ∧ (e = .marshal ∨ e.isTransport = true))

theorem Finished.Correct.append {decode : Line → Option (RpcResponse α)}
    {served : List (Line × Line)} {f : Finished α} (h : f.Correct decode served)
    (more : List (Line × Line)) : f.Correct decode (served ++ more) := by
  refine ⟨fun j hj => ?_, h.2⟩
  obtain ⟨line, resp, hl, hs, ho⟩ := h.1 j hj
  exact ⟨line, resp, hl, List.getElem?_append_left (List.getElem?_eq_some_iff.1 hs).1 ▸ hs, ho⟩

theorem Finished.correct_failed {decode : Line → Option (RpcResponse α)}
    {served : List (Line × Line)} {caller : Nat} {id : BitVec 64} {line : Option Line}
    {e : ProxyError} (he : e = .marshal ∨ e.isTransport = true) :
    (⟨caller, id, line, none, .error e⟩ : Finished α).Correct decode served :=
  ⟨fun _ h => (nomatch h), fun _ => ⟨e, rfl, he⟩⟩

/-- The bridge's invariant. The three counters of request lines (written, served by the child,
answered and read back) are each at most one ahead of the next; each pipe holds exactly the
lines in flight on it; the lock holder wrote the last line; ids are `nextID`'s successive
values; every finished call is correct. -/
structure Lockstep (decode : Line → Option (RpcResponse α)) (s : Bridge α) : Prop where
  consumed_le : s.consumed ≤ s.served.length
  served_le : s.served.length ≤ s.written.length
  written_le : s.written.length ≤ s.consumed + 1
  served_lines : s.served.map Prod.fst = (s.written.map Written.line).take s.served.length
  toChild_eq : s.toChild =
    if s.running then framedAll ((s.written.map Written.line).drop s.served.length) else []
  fromChild_eq : s.fromChild =
    if s.stdoutOpen then framedAll ((s.served.map Prod.snd).drop s.consumed) else []
  running_stdout : s.running = true → s.stdoutOpen = true
  holder_some : ∀ {c id line}, s.holder = some (c, id, line) →
    s.written.length = s.consumed + 1 ∧
      s.written[s.consumed]?.map (fun w => (w.id, w.line)) = some (id, line)
  holder_none : s.holder = none → s.written.length = s.consumed ∨ s.running = false
  nextID_eq : s.nextID = BitVec.ofNat 64 (s.begun + 1)
  written_ids : ∀ w ∈ s.written, w.id = BitVec.ofNat 64 (w.index + 1) ∧ w.index < s.begun
  indices_sorted : (s.written.map Written.index).Sorted (· < ·)
  finished_correct : ∀ f ∈ s.finished, f.Correct decode s.served

section Preservation

variable {encode : Int → String → ρ → Option Line} {decode : Line → Option (RpcResponse α)}
  {s : Bridge α}

theorem Lockstep.started : Lockstep decode (Bridge.started : Bridge α) where
  consumed_le := le_rfl
  served_le := le_rfl
  written_le := Nat.zero_le _
  served_lines := rfl
  toChild_eq := rfl
  fromChild_eq := rfl
  running_stdout := fun _ => rfl
  holder_some := fun h => nomatch h
  holder_none := fun _ => .inl rfl
  nextID_eq := rfl
  written_ids := fun _ h => nomatch h
  indices_sorted := List.sorted_nil
  finished_correct := fun _ h => nomatch h

/-- A call that fails before writing takes an id and records its error, nothing else. -/
theorem Lockstep.fail (hs : Lockstep decode s) (e : ProxyError)
    (he : e = .marshal ∨ e.isTransport = true) (caller : Nat) :
    Lockstep decode
      (({ s with nextID := s.nextID + 1, begun := s.begun + 1 } : Bridge α).fail caller s.nextID e) :=
  { hs with
    nextID_eq := by simp [Bridge.fail, hs.nextID_eq, BitVec.ofNat_add]
    written_ids := fun w hw => by
      obtain ⟨h₁, h₂⟩ := hs.written_ids w hw
      exact ⟨h₁, Nat.lt_succ_of_lt h₂⟩
    finished_correct := List.forall_mem_append.2
      ⟨hs.finished_correct, List.forall_mem_singleton.2 (Finished.correct_failed he)⟩ }

/-- A call that writes its line becomes the lock holder, with the last line written. -/
theorem Lockstep.write (hs : Lockstep decode s) (hh : s.holder = none) (hr : s.running = true)
    (caller : Nat) (line : Line) :
    Lockstep decode
      { s with nextID := s.nextID + 1, begun := s.begun + 1, toChild := s.toChild ++ line.framed,
               written := s.written ++ [⟨s.begun, s.nextID, line⟩],
               holder := some (caller, s.nextID, line) } := by
  have hw : s.written.length = s.consumed := (hs.holder_none hh).resolve_right (by simp [hr])
  have hSW := hs.served_le
  have hS : s.served.length ≤ (s.written.map Written.line).length := by simpa using hSW
  refine
    { consumed_le := hs.consumed_le
      served_le := by simp only [List.length_append, List.length_singleton]; omega
      written_le := by simp only [List.length_append, List.length_singleton]; omega
      served_lines := by simp only [List.map_append, List.take_append_of_le_length hS, hs.served_lines]
      toChild_eq := by
        simp [hr, hs.toChild_eq, List.drop_append_of_le_length hS]
      fromChild_eq := hs.fromChild_eq
      running_stdout := hs.running_stdout
      holder_some := fun h => by
        cases h
        simp [← hw, List.getElem?_concat_length]
      holder_none := fun h => nomatch h
      nextID_eq := by simp [hs.nextID_eq, BitVec.ofNat_add]
      written_ids := fun w hw' => by
        rcases List.mem_append.1 hw' with hw' | hw'
        · obtain ⟨h₁, h₂⟩ := hs.written_ids w hw'
          exact ⟨h₁, Nat.lt_succ_of_lt h₂⟩
        · rw [List.mem_singleton] at hw'
          subst hw'
          exact ⟨hs.nextID_eq, Nat.lt_succ_self _⟩
      indices_sorted := by
        simp only [List.map_append, List.map_cons, List.map_nil]
        refine List.pairwise_append.2 ⟨hs.indices_sorted, List.pairwise_singleton _ _, ?_⟩
        intro a ha b hb
        obtain ⟨w, hw', rfl⟩ := List.mem_map.1 ha
        rw [List.mem_singleton.1 hb]
        exact (hs.written_ids w hw').2
      finished_correct := hs.finished_correct }

/-- `SendRequest`'s write half keeps the invariant, whether it fails or writes. -/
theorem Lockstep.sendRequest (hs : Lockstep decode s) (hh : s.holder = none) (caller : Nat)
    (method : String) (params : ρ) : Lockstep decode (s.sendRequest encode caller method params) := by
  simp only [Bridge.sendRequest]
  split
  · exact hs.fail .marshal (.inl rfl) caller
  · split
    · exact hs.fail (.write .closed) (.inr rfl) caller
    · split
      · exact hs.fail (.write .brokenPipe) (.inr rfl) caller
      · next hr => exact hs.write hh (by simpa using hr) caller _

/-- The `j`-th line the child served is the `j`-th line written. -/
theorem Lockstep.served_line (hs : Lockstep decode s) {j : Nat} {req resp : Line}
    (h : s.served[j]? = some (req, resp)) : s.written[j]?.map Written.line = some req := by
  have hj : j < s.served.length := (List.getElem?_eq_some_iff.1 h).1
  have := congrArg (·[j]?) hs.served_lines
  simpa [List.getElem?_take_of_lt hj, h] using this.symm

/-- **The first whole line on the child's stdout answers the lock holder's own request**: the
child answers in order, and the holder wrote the last line. -/
theorem Lockstep.answer_of_split (hs : Lockstep decode s) {c : Nat} {id : BitVec 64}
    {line resp : Line} {rest : List UInt8} (hh : s.holder = some (c, id, line))
    (hsplit : splitLine s.fromChild = some (resp, rest)) :
    s.stdoutOpen = true ∧ s.served[s.consumed]? = some (line, resp) ∧
      rest = framedAll ((s.served.map Prod.snd).drop (s.consumed + 1)) := by
  have hopen : s.stdoutOpen = true := by
    by_contra hc
    simp [hs.fromChild_eq, hc, splitLine] at hsplit
  rw [hs.fromChild_eq, if_pos hopen, splitLine_framedAll] at hsplit
  simp only [List.head?_drop, List.getElem?_map, Option.map_eq_some', Prod.mk.injEq] at hsplit
  obtain ⟨_, ⟨⟨req, _⟩, hp, rfl⟩, rfl, rfl⟩ := hsplit
  have hline : s.written[s.consumed]?.map Written.line = some line := by
    simpa [Option.map_map] using congrArg (Option.map Prod.snd) (hs.holder_some hh).2
  obtain rfl : req = line := Option.some.inj ((hs.served_line hp).symm.trans hline)
  exact ⟨hopen, hp, by simp [List.tail_drop]⟩

/-- A read that finds no whole line on an open stdout finds no answer pending. -/
theorem Lockstep.no_answer (hs : Lockstep decode s) (hsplit : splitLine s.fromChild = none)
    (hopen : s.stdoutOpen = true) : (s.served.map Prod.snd).drop s.consumed = [] := by
  rw [hs.fromChild_eq, if_pos hopen, splitLine_framedAll] at hsplit
  simpa using hsplit

/-- The lock holder's read keeps the invariant: a line it reads is the answer to its own
request; a read that fails finds no answer pending and no child running. -/
theorem Lockstep.readResponse (hs : Lockstep decode s) {c : Nat} {id : BitVec 64} {line : Line}
    (hh : s.holder = some (c, id, line)) {t : Bridge α}
    (h : s.readResponse decode c id line = some t) : Lockstep decode t := by
  have hW := (hs.holder_some hh).1
  simp only [Bridge.readResponse] at h
  split at h
  · next resp rest hsplit =>
    cases h
    obtain ⟨hopen, hp, rfl⟩ := hs.answer_of_split hh hsplit
    exact
      { hs with
        consumed_le := (List.getElem?_eq_some_iff.1 hp).1
        written_le := show s.written.length ≤ s.consumed + 1 + 1 by omega
        fromChild_eq := by simp [hopen]
        holder_some := fun h => nomatch h
        holder_none := fun _ => .inl hW
        finished_correct := List.forall_mem_append.2 ⟨hs.finished_correct,
          List.forall_mem_singleton.2 ⟨fun j hj => by cases hj; exact ⟨_, _, rfl, hp, rfl⟩,
            fun h => (nomatch h)⟩⟩ }
  · split at h
    · cases h
    · next hsplit hblocked =>
      cases h
      have hrun : s.running = false :=
        Bool.eq_false_iff.2 fun hr => by simp [hr, hs.running_stdout hr] at hblocked
      exact
        { hs with
          fromChild_eq := by
            split
            · next hopen => simp [hs.no_answer hsplit hopen]
            · rfl
          running_stdout := fun h => by simp [hrun] at h
          holder_some := fun h => nomatch h
          holder_none := fun _ => .inr hrun
          finished_correct := List.forall_mem_append.2
            ⟨hs.finished_correct, List.forall_mem_singleton.2 (Finished.correct_failed (.inr rfl))⟩ }

/-- The child reads the next line written and queues its answer behind the others. -/
theorem Lockstep.serve (hs : Lockstep decode s) (hr : s.running = true) {response : Line}
    {t : Bridge α} (h : s.serve response = some t) : Lockstep decode t := by
  simp only [Bridge.serve, Option.map_eq_some'] at h
  obtain ⟨⟨req, rest⟩, hsplit, rfl⟩ := h
  rw [hs.toChild_eq, if_pos hr, splitLine_framedAll] at hsplit
  simp only [List.head?_drop, Option.map_eq_some', Prod.mk.injEq] at hsplit
  obtain ⟨_, hreq, rfl, rfl⟩ := hsplit
  have hS : s.served.length < s.written.length := by
    simpa using (List.getElem?_eq_some_iff.1 hreq).1
  have hK := hs.consumed_le
  exact
    { hs with
      consumed_le := by simp only [List.length_append, List.length_singleton]; omega
      served_le := by simp only [List.length_append, List.length_singleton]; omega
      served_lines := by simp [hs.served_lines, List.take_succ, hreq]
      toChild_eq := by simp [hr, List.tail_drop]
      fromChild_eq := by
        simp [hs.fromChild_eq, hs.running_stdout hr,
          List.drop_append_of_le_length (by simpa using hK : s.consumed ≤ (s.served.map Prod.snd).length)]
      finished_correct := fun f hf => (hs.finished_correct f hf).append _ }

theorem Lockstep.exit (hs : Lockstep decode s) : Lockstep decode s.exit :=
  { hs with
    toChild_eq := rfl
    running_stdout := fun h => nomatch h
    holder_none := fun _ => .inr rfl }

theorem Lockstep.stop (hs : Lockstep decode s) : Lockstep decode s.stop :=
  { hs with
    toChild_eq := rfl
    fromChild_eq := rfl
    running_stdout := fun h => nomatch h
    holder_none := fun _ => .inr rfl }

theorem Lockstep.step (hs : Lockstep decode s) {e : Event ρ} {t : Bridge α}
    (h : s.step encode decode e = some t) : Lockstep decode t := by
  rcases Bridge.step_eq_some h with ⟨c, m, p, -, hh, rfl⟩ | ⟨c, id, line, -, hh, h⟩ |
    ⟨r, -, hr, h⟩ | ⟨-, -, rfl⟩ | ⟨-, rfl⟩
  · exact hs.sendRequest hh c m p
  · exact hs.readResponse hh h
  · exact hs.serve hr h
  · exact hs.exit
  · exact hs.stop

/-- **The invariant holds in every reachable state.** -/
theorem reachable_lockstep {s : Bridge α} (h : Reachable encode decode s) : Lockstep decode s := by
  induction h with
  | start => exact Lockstep.started
  | step _ _ hstep ih => exact ih.step hstep

end Preservation

/-! ## Correlation -/

section Correlation

variable (encode : Int → String → ρ → Option Line) (decode : Line → Option (RpcResponse α))

/-- The ids written, read as Go `int`s, increase while fewer than `2^63` calls have begun. -/
theorem Lockstep.ids_increasing {s : Bridge α} (hs : Lockstep decode s) (hb : s.begun < 2 ^ 63) :
    (s.written.map fun w => w.id.toInt).Sorted (· < ·) := by
  have hmap : (s.written.map fun w => w.id.toInt) =
      s.written.map fun w => ((w.index + 1 : Nat) : Int) :=
    List.map_congr_left fun w hw => by
      obtain ⟨h₁, h₂⟩ := hs.written_ids w hw
      rw [h₁, toInt_ofNat_of_lt (by omega)]
  have hsorted := hs.indices_sorted
  simp only [hmap, List.Sorted, List.pairwise_map] at hsorted ⊢
  exact hsorted.imp fun h => by omega

/-- **Lock-step correlation.** In every reachable state of the bridge: (i) the ids written
increase, as long as fewer than `2^63` calls have begun; (ii) at most one line written has not
had its answer read; (iii) a call that returned a result or an rpc error returned what the
child's answer to that call's own line decodes to. -/
theorem sendRequest_lockstep {s : Bridge α} (h : Reachable encode decode s) :
    (s.begun < 2 ^ 63 → (s.written.map fun w => w.id.toInt).Sorted (· < ·)) ∧
    s.written.length ≤ s.consumed + 1 ∧
    ∀ f ∈ s.finished, ((∃ a, f.outcome = .ok a) ∨ ∃ code msg, f.outcome = .error (.rpc code msg)) →
      ∃ j line resp, f.got = some j ∧ f.line = some line ∧ s.served[j]? = some (line, resp) ∧
        f.outcome = interpret (decode resp) := by
  have hs := reachable_lockstep h
  refine ⟨hs.ids_increasing decode, hs.written_le, fun f hf hout => ?_⟩
  obtain ⟨hgot, hnone⟩ := hs.finished_correct f hf
  cases hj : f.got with
  | some j =>
    obtain ⟨line, resp, h₁, h₂, h₃⟩ := hgot j hj
    exact ⟨j, line, resp, rfl, h₁, h₂, h₃⟩
  | none =>
    obtain ⟨e, he, hk⟩ := hnone hj
    rcases hout with ⟨a, ha⟩ | ⟨code, msg, ha⟩ <;> rw [ha] at he <;> cases he
    rcases hk with hk | hk <;> cases hk

theorem sendRequest_lockstep_crash :
    ∃ s, Bridge.started.run marshalIf decodeUnit crashRun = some s ∧
      ((s.begun < 2 ^ 63 → (s.written.map fun w => w.id.toInt).Sorted (· < ·)) ∧
      s.written.length ≤ s.consumed + 1 ∧
      ∀ f ∈ s.finished, ((∃ a, f.outcome = .ok a) ∨ ∃ code msg, f.outcome = .error (.rpc code msg)) →
        ∃ j line resp, f.got = some j ∧ f.line = some line ∧ s.served[j]? = some (line, resp) ∧
          f.outcome = interpret (decodeUnit resp)) :=
  ⟨_, rfl, sendRequest_lockstep marshalIf decodeUnit (Reachable.run crashRun .start rfl)⟩

/-- `n` calls whose params do not marshal take `n` ids and write nothing. -/
theorem Bridge.run_marshal_failures (caller : Nat) (method : String) :
    ∀ (n : Nat) (s : Bridge α), s.holder = none →
      ∃ fs, s.run marshalIf decode (List.replicate n (.call caller method false)) =
        some { s with nextID := s.nextID + BitVec.ofNat 64 n, begun := s.begun + n,
                      finished := s.finished ++ fs }
  | 0, s, _ => ⟨[], by simp [Bridge.run]⟩
  | n + 1, s, hh => by
    let s₁ : Bridge α :=
      ({ s with nextID := s.nextID + 1, begun := s.begun + 1 } : Bridge α).fail caller s.nextID
        .marshal
    obtain ⟨fs, hfs⟩ := Bridge.run_marshal_failures caller method n s₁ hh
    refine ⟨⟨caller, s.nextID, none, none, .error .marshal⟩ :: fs, ?_⟩
    have hstep : s.step marshalIf decode (.call caller method false) = some s₁ := by
      simp only [Bridge.step, hh, Option.isSome_none, Bool.false_eq_true, if_false]
      rfl
    rw [List.replicate_succ, Bridge.run, hstep, Option.some_bind, hfs]
    simp only [s₁, Bridge.fail, Option.some.injEq, Bridge.mk.injEq, List.append_assoc,
      List.singleton_append, true_and, and_true]
    exact ⟨by rw [BitVec.ofNat_add, add_assoc, add_comm 1]; rfl, by omega⟩

/-- `2^63 - 2` calls whose params do not marshal, then two that complete: the second of those
is the `2^63`-th call, and `p.nextID` has wrapped. -/
def wrapRun : List (Event Bool) :=
  List.replicate (2 ^ 63 - 2) (.call 0 "tools/call" false) ++
    [.call 0 "tools/call" true, .serve emptyObject, .recv, .call 0 "tools/call" true]

theorem write_ids_wrap :
    ∃ s, Bridge.started.run marshalIf decodeUnit wrapRun = some s ∧
      s.written.map (fun w => w.id.toInt) = [2 ^ 63 - 1, -2 ^ 63] ∧
      ¬ (s.written.map fun w => w.id.toInt).Sorted (· < ·) := by
  obtain ⟨fs, hfs⟩ := Bridge.run_marshal_failures decodeUnit 0 "tools/call" (2 ^ 63 - 2)
    Bridge.started rfl
  refine ⟨_, by rw [wrapRun, Bridge.run_append, hfs]; rfl, ?_⟩
  simp [Bridge.started, Bridge.sendRequest, marshalIf, BitVec.toInt_eq_toNat_cond]

end Correlation

/-! ## Progress

The lock holder never waits for good: its read completes at once, or the child is running with
the holder's line still unread, and as soon as the child answers that line, with anything, the
read completes. So the mutex of `SendRequest` cannot be held forever by a caller whose answer is
lost or was read by another. -/

section Progress

variable {encode : Int → String → ρ → Option Line} {decode : Line → Option (RpcResponse α)}
  {s : Bridge α}

/-- The read of a holder whose answer is not on the pipe blocks only while the child runs. -/
theorem Bridge.readResponse_isSome {c : Nat} {id : BitVec 64} {line : Line}
    (h : ¬ (s.running = true ∧ s.stdoutOpen = true ∧ splitLine s.fromChild = none)) :
    ∃ t, s.readResponse decode c id line = some t := by
  simp only [Bridge.readResponse]
  split
  · exact ⟨_, rfl⟩
  · next hsplit =>
    rw [if_neg fun hb => h ⟨(Bool.and_eq_true _ _ ▸ hb).1, (Bool.and_eq_true _ _ ▸ hb).2, hsplit⟩]
    exact ⟨_, rfl⟩

/-- **The lock holder's call completes.** Either its read completes now, or the child, which
runs, answers the holder's line with any `r` and then the read completes. -/
theorem Lockstep.holder_completes (hs : Lockstep decode s) {c : Nat} {id : BitVec 64}
    {line : Line} (hh : s.holder = some (c, id, line)) (r : Line) :
    (∃ t, s.step encode decode .recv = some t) ∨
    ∃ t t', s.step encode decode (.serve r) = some t ∧ t.step encode decode .recv = some t' := by
  by_cases hblock : s.running = true ∧ s.stdoutOpen = true ∧ splitLine s.fromChild = none
  · obtain ⟨hrun, hopen, hsplit⟩ := hblock
    have hnone := hs.no_answer hsplit hopen
    have hS : s.served.length = s.consumed := by
      have := hs.consumed_le
      simp only [List.drop_eq_nil_iff, List.length_map] at hnone
      omega
    obtain ⟨hW, hw⟩ := hs.holder_some hh
    have hhead : ((s.written.map Written.line).drop s.served.length).head? = some line := by
      rw [List.head?_drop, hS, List.getElem?_map]
      simpa [Option.map_map] using congrArg (Option.map Prod.snd) hw
    have htail : ((s.written.map Written.line).drop s.served.length).tail = [] := by
      rw [List.tail_drop, List.drop_eq_nil_iff, List.length_map, hW, hS]
    have hto : splitLine s.toChild = some (line, []) := by
      rw [hs.toChild_eq, if_pos hrun, splitLine_framedAll, hhead, htail]
      rfl
    have hfrom : s.fromChild = [] := by
      rw [hs.fromChild_eq, if_pos hopen, hnone]
      rfl
    let t : Bridge α := { s with toChild := [], fromChild := s.fromChild ++ r.framed,
                                 served := s.served ++ [(line, r)] }
    have hstep : s.step encode decode (.serve r) = some t := by
      show (if s.running then s.serve r else none) = some t
      rw [if_pos hrun, Bridge.serve, hto]
      rfl
    have hsplit' : splitLine t.fromChild = some (r, []) := by
      show splitLine (s.fromChild ++ r.framed) = _
      rw [hfrom, List.nil_append, ← List.append_nil r.framed, splitLine_framed_append]
    obtain ⟨t', ht'⟩ := @Bridge.readResponse_isSome _ decode t c id line
      fun ⟨_, _, h⟩ => nomatch hsplit'.symm.trans h
    refine .inr ⟨t, t', hstep, ?_⟩
    show s.holder.bind _ = _
    rw [hh]
    exact ht'
  · obtain ⟨t, ht⟩ := @Bridge.readResponse_isSome _ decode s c id line hblock
    exact .inl ⟨t, by simp only [Bridge.step, hh, Option.some_bind]; exact ht⟩

end Progress

end HexStrikeGateway.Proxy
