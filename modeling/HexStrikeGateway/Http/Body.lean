import Mathlib.Data.List.Basic

/-!
# Request bodies: `bytesReader`, `io.LimitReader` and `io.ReadAll`

Two stages of the chain read the request body: `policy.Middleware` reads it from the transport,
decodes it, and hands the next stage a `bytesReader` over the bytes it buffered; `NewMCPHandler`
reads that again. Both read through `io.ReadAll(io.LimitReader(r.Body, 1<<20))`.

How `ReadAll` sizes its buffer (512 bytes, then whatever `append` grows it to) is left open:
`sizes i + 1` is the length of the buffer the `i`-th `Read` gets, for an arbitrary `sizes`, so
every result below holds for every way the reads are split. The server's body reader is modelled
as a reader over the bytes the client sent, in order, and then `io.EOF`; a transport fault, which
makes both stages answer 400, is not modelled.

`bytesReader_reads` says what any sequence of reads of a `bytesReader` returns, and
`readAll_bytesReader` what `ReadAll` of a limited one returns; `readAll_replay` puts them
together: the second stage reads back exactly the bytes the first one buffered.
-/

namespace HexStrikeGateway.Http

/-- `bytesReader` of policy/middleware.go: a byte slice and a read position. -/
structure BytesReader where
  data : List UInt8
  pos : Nat

/-- `(*bytesReader).Read` into a buffer of `n` bytes: the bytes copied, and whether it returned
`io.EOF`. -/
def BytesReader.read (b : BytesReader) (n : Nat) : (List UInt8 × Bool) × BytesReader :=
  if b.pos ≥ b.data.length then (([], true), b)
  else
    let chunk := (b.data.drop b.pos).take n
    ((chunk, false), ⟨b.data, b.pos + chunk.length⟩)

/-- `io.LimitedReader` over a `bytesReader`: `n` is the remaining `N`. -/
structure LimitedReader where
  r : BytesReader
  n : Nat

/-- `(*LimitedReader).Read`: `io.EOF` once the limit is spent, else a read of the underlying
reader with the buffer cut to the limit. -/
def LimitedReader.read (l : LimitedReader) (len : Nat) : (List UInt8 × Bool) × LimitedReader :=
  if l.n = 0 then (([], true), l)
  else
    let (out, r') := l.r.read (min len l.n)
    (out, ⟨r', l.n - out.1.length⟩)

/-- The loop of `io.ReadAll`: read, append, and stop at the first error (`io.EOF` here, which
`ReadAll` turns into success). `fuel` bounds the number of reads. -/
def readAllLoop (sizes : Nat → Nat) : Nat → Nat → LimitedReader → List UInt8 → List UInt8
  | 0, _, _, acc => acc
  | fuel + 1, i, l, acc =>
    let ((got, eof), l') := l.read (sizes i + 1)
    if eof then acc ++ got else readAllLoop sizes fuel (i + 1) l' (acc ++ got)

/-- `io.ReadAll` of a limited reader. Every `Read` but the last consumes at least one byte of the
limit, so `n + 1` reads always suffice (`readAll_bytesReader`). -/
def readAll (sizes : Nat → Nat) (l : LimitedReader) : List UInt8 :=
  readAllLoop sizes (l.n + 1) 0 l []

/-- `1<<20`, the limit both stages read the body with. -/
def maxBody : Nat := 1 <<< 20

/-! ## What the readers return -/

theorem take_append_take_drop (l : List UInt8) {k m : Nat} (hk : k ≤ m) :
    l.take k ++ (l.drop (l.take k).length).take (m - (l.take k).length) = l.take m := by
  rw [List.length_take]
  by_cases hl : k ≤ l.length
  · rw [Nat.min_eq_left hl, ← List.take_add, Nat.add_sub_cancel' hk]
  · have hl' : l.length ≤ m := by omega
    rw [Nat.min_eq_right (by omega), List.drop_length, List.take_nil, List.append_nil,
      List.take_of_length_le (by omega), List.take_of_length_le hl']

theorem readAllLoop_bytesReader (sizes : Nat → Nat) (data : List UInt8) :
    ∀ (fuel i pos m : Nat) (acc : List UInt8), m < fuel →
      readAllLoop sizes fuel i ⟨⟨data, pos⟩, m⟩ acc = acc ++ (data.drop pos).take m
  | 0, _, _, _, _, h => absurd h (Nat.not_lt_zero _)
  | fuel + 1, i, pos, m, acc, h => by
    by_cases hm : m = 0
    · subst hm
      simp [readAllLoop, LimitedReader.read]
    by_cases hp : pos ≥ data.length
    · simp [readAllLoop, LimitedReader.read, BytesReader.read, hm, hp,
        List.drop_eq_nil_of_le hp]
    · have hlen : 0 < ((data.drop pos).take (min (sizes i + 1) m)).length := by
        simp only [List.length_take, List.length_drop]; omega
      simp only [readAllLoop, LimitedReader.read, BytesReader.read, hm, hp, ↓reduceIte,
        Bool.false_eq_true]
      rw [readAllLoop_bytesReader sizes data fuel (i + 1) _ _ _ (by omega), List.append_assoc,
        ← List.drop_drop, take_append_take_drop _ (Nat.min_le_right _ _)]

/-- `ReadAll` of a limited `bytesReader` returns the next `n` bytes, or all that are left. -/
theorem readAll_bytesReader (sizes : Nat → Nat) (data : List UInt8) (pos n : Nat) :
    readAll sizes ⟨⟨data, pos⟩, n⟩ = (data.drop pos).take n :=
  readAllLoop_bytesReader sizes data (n + 1) 0 pos n [] (Nat.lt_succ_self n)

/-- **The replay reads back what was buffered.** Whatever the two stages' read sizes, the first
buffers the first `maxBody` bytes of the body, and reading a fresh `bytesReader` over them gives
exactly those bytes again. -/
theorem readAll_replay (sizes₁ sizes₂ : Nat → Nat) (body : BytesReader) :
    readAll sizes₁ ⟨body, maxBody⟩ = (body.data.drop body.pos).take maxBody ∧
    readAll sizes₂ ⟨⟨readAll sizes₁ ⟨body, maxBody⟩, 0⟩, maxBody⟩ =
      readAll sizes₁ ⟨body, maxBody⟩ := by
  refine ⟨readAll_bytesReader sizes₁ body.data body.pos maxBody, ?_⟩
  rw [readAll_bytesReader, readAll_bytesReader, List.drop_zero, List.take_take, min_self]

end HexStrikeGateway.Http
