import HexStrikeGateway.Policy.Engine

/-!
# Hot reload

`policy/cache.go`: `WatchingCache` holds an engine and the modification time of the policy file
it last saw, and every tick of its poller runs `checkReload`: `os.Stat` the file, and when its
time is after the recorded one, `NewEngine(path)` again and record the new time.

A run is `NewEngine(path)`, then `NewWatchingCache(engine, path)`, then ticks, with the policy
file rewritten or removed at any point between these steps. The file is a `FileVersion` (its
bytes and modification time) or absent; `time.Time` is a count of ticks, with `0` the zero
`Time` a cache starts from. `json.Unmarshal` into a `CompiledPolicy` enters as `parse`.
`Engine.Reload`, the other way a snapshot is replaced, is `NewEngine` again with the old engine
kept on an error.

The cache records the time of the file as `NewWatchingCache` finds it, not of the version the
engine was loaded from. `Synced` is what a tick needs: the engine is parsed from a version whose
time is at least the recorded one. Ticks and rewrites keep it (`Synced.run`), so when no rewrite
lands between `NewEngine` and `NewWatchingCache` every tick at which the file parses installs it
(`tick_installs_current`); `stale_after_early_rewrite` is a run where one does, after which the
cache never reloads.
-/

namespace HexStrikeGateway.Policy

/-- One version of the policy file: its bytes and its modification time. -/
structure FileVersion where
  data : List UInt8
  modTime : Nat
  deriving DecidableEq, Repr

/-- Why `NewEngine` failed. -/
inductive LoadError where
  /-- `read policy: %w`: `os.ReadFile` failed. -/
  | readPolicy
  /-- `parse policy: %w`: `json.Unmarshal` failed. -/
  | parsePolicy
  deriving DecidableEq, Repr

/-- `NewEngine(path)`, with the policy file as it is now. -/
def newEngine (parse : List UInt8 → Option CompiledPolicy) (path : String)
    (file : Option FileVersion) : Except LoadError Engine :=
  if path = "" then .ok defaultEngine
  else
    match file with
    | none => .error .readPolicy
    | some v =>
      match parse v.data with
      | none => .error .parsePolicy
      | some pol => .ok ⟨pol⟩

/-- `Engine.Reload(path)`, with the policy file as it is now: `NewEngine(path)`, and on success
its policy replaces the engine's. The result is the error `Reload` returns, if any, and the
engine afterwards. -/
def Engine.reload (parse : List UInt8 → Option CompiledPolicy) (e : Engine) (path : String)
    (file : Option FileVersion) : Option LoadError × Engine :=
  match newEngine parse path file with
  | .error err => (some err, e)
  | .ok ne => (none, { e with policy := ne.policy })

/-- **`Reload` replaces the snapshot whole or leaves it untouched.** It fails exactly when
`NewEngine` does, with the same error, and the engine is then as it was. When it succeeds the
engine is the one `NewEngine` returns, whatever the engine held before: `NewEngine` decodes the
file into a fresh `CompiledPolicy`, so nothing of the old snapshot is left in a field the file
omits. -/
theorem reload_replaces_or_keeps (parse : List UInt8 → Option CompiledPolicy) (e : Engine)
    (path : String) (file : Option FileVersion) :
    (∀ err, (e.reload parse path file).1 = some err ↔ newEngine parse path file = .error err) ∧
    (∀ err, newEngine parse path file = .error err → (e.reload parse path file).2 = e) ∧
    (∀ ne, newEngine parse path file = .ok ne →
      (e.reload parse path file).1 = none ∧ ∀ e₀ : Engine, (e₀.reload parse path file).2 = ne) := by
  unfold Engine.reload
  split
  · next err' h => simp [h]
  · next ne' h => exact ⟨by simp [h], by simp [h], fun ne hne => by cases h ▸ hne; simp⟩

/-- `WatchingCache`, without its mutex and stop channel. -/
structure WatchingCache where
  engine : Engine
  path : String
  modTime : Nat

/-- `NewWatchingCache(engine, path)`: record the file's time, if it can be `Stat`ed. -/
def newWatchingCache (engine : Engine) (path : String) (file : Option FileVersion) :
    WatchingCache :=
  ⟨engine, path, if path = "" then 0 else (file.map FileVersion.modTime).getD 0⟩

/-- `checkReload`, one tick of the poller. -/
def WatchingCache.checkReload (parse : List UInt8 → Option CompiledPolicy) (c : WatchingCache)
    (file : Option FileVersion) : WatchingCache :=
  if c.path = "" then c
  else
    match file with
    | none => c
    | some info =>
      if !decide (info.modTime > c.modTime) then c
      else
        match newEngine parse c.path file with
        | .error _ => c
        | .ok e => { c with engine := e, modTime := info.modTime }

/-! ## Runs -/

/-- A change to the policy file: a rewrite, with a later time than any before, or a removal. -/
inductive FileEvent where
  | write (v : FileVersion)
  | remove

/-- What can happen after `NewWatchingCache`: the file changes, or the poller ticks. -/
inductive CacheEvent where
  | file (e : FileEvent)
  | tick

/-- The policy file and the latest modification time so far. -/
structure Disk where
  file : Option FileVersion
  clock : Nat

/-- A change to the file; `none` for a rewrite whose time is not later than every earlier one. -/
def Disk.apply (d : Disk) : FileEvent → Option Disk
  | .write v => if d.clock < v.modTime then some ⟨some v, v.modTime⟩ else none
  | .remove => some ⟨none, d.clock⟩

def Disk.applyAll (d : Disk) : List FileEvent → Option Disk
  | [] => some d
  | e :: es => (d.apply e).bind (·.applyAll es)

structure World where
  disk : Disk
  cache : WatchingCache

def World.step (parse : List UInt8 → Option CompiledPolicy) (w : World) :
    CacheEvent → Option World
  | .file e => (w.disk.apply e).map fun d => { w with disk := d }
  | .tick => some { w with cache := w.cache.checkReload parse w.disk.file }

def World.run (parse : List UInt8 → Option CompiledPolicy) (w : World) :
    List CacheEvent → Option World
  | [] => some w
  | e :: es => (w.step parse e).bind (·.run parse es)

/-- A whole run: `NewEngine(path)` with the file at `v₀`, the changes `early`, then
`NewWatchingCache(engine, path)` and the steps `events`. `none` when `NewEngine` fails. -/
def watchRun (parse : List UInt8 → Option CompiledPolicy) (path : String) (v₀ : FileVersion)
    (early : List FileEvent) (events : List CacheEvent) : Option World :=
  match newEngine parse path (some v₀) with
  | .error _ => none
  | .ok e =>
    (Disk.applyAll ⟨some v₀, v₀.modTime⟩ early).bind fun d =>
      World.run parse ⟨d, newWatchingCache e path d.file⟩ events

/-! ## What a tick does -/

section Tick

variable {parse : List UInt8 → Option CompiledPolicy}

/-- **A tick that finds no file, or a file that does not parse, changes nothing**: neither the
engine nor the recorded time. -/
theorem checkReload_unchanged (c : WatchingCache) (file : Option FileVersion)
    (h : file = none ∨ ∃ v, file = some v ∧ parse v.data = none) :
    c.checkReload parse file = c := by
  unfold WatchingCache.checkReload
  split
  · rfl
  · rcases h with rfl | ⟨v, rfl, hv⟩
    · rfl
    · simp only [newEngine, hv, ‹¬c.path = ""›, if_false]
      split <;> rfl

/-- A tick that finds the file no newer than the recorded time changes nothing. -/
theorem checkReload_of_le (c : WatchingCache) {info : FileVersion}
    (h : info.modTime ≤ c.modTime) : c.checkReload parse (some info) = c := by
  simp [WatchingCache.checkReload, Nat.not_lt.2 h]

/-- A tick that finds a newer file that parses installs it and records its time. -/
theorem checkReload_reloads {c : WatchingCache} {info : FileVersion} {pol : CompiledPolicy}
    (hpath : c.path ≠ "") (hlt : c.modTime < info.modTime) (hp : parse info.data = some pol) :
    c.checkReload parse (some info) = { c with engine := ⟨pol⟩, modTime := info.modTime } := by
  simp [WatchingCache.checkReload, newEngine, hpath, hlt, hp]

end Tick

/-! ## In sync -/

section Synced

variable {parse : List UInt8 → Option CompiledPolicy}

/-- A tick can trust the recorded time: there is a file to watch, no file is newer than the
clock, and the engine is parsed from a version `v` no older than the recorded time, of which the
file now is `v` itself or a later version. -/
structure Synced (parse : List UInt8 → Option CompiledPolicy) (w : World) : Prop where
  path_ne : w.cache.path ≠ ""
  file_le : ∀ cur, w.disk.file = some cur → cur.modTime ≤ w.disk.clock
  source : ∃ v : FileVersion, newEngine parse w.cache.path (some v) = .ok w.cache.engine ∧
    w.cache.modTime ≤ v.modTime ∧ v.modTime ≤ w.disk.clock ∧
    ∀ cur, w.disk.file = some cur → cur = v ∨ v.modTime < cur.modTime

theorem Synced.tick {w : World} (hs : Synced parse w) :
    Synced parse { w with cache := w.cache.checkReload parse w.disk.file } := by
  cases hf : w.disk.file with
  | none => rw [checkReload_unchanged _ _ (.inl rfl)]; exact hs
  | some info =>
    by_cases hlt : w.cache.modTime < info.modTime
    · cases hp : parse info.data with
      | none => rw [checkReload_unchanged _ _ (.inr ⟨info, rfl, hp⟩)]; exact hs
      | some pol =>
        rw [checkReload_reloads hs.path_ne hlt hp]
        refine ⟨hs.path_ne, hs.file_le, info, ?_, le_rfl, hs.file_le info hf, fun cur hcur => .inl ?_⟩
        · simp [newEngine, hs.path_ne, hp]
        · rw [hf] at hcur; exact (Option.some.inj hcur).symm
    · rw [checkReload_of_le _ (Nat.not_lt.1 hlt)]; exact hs

theorem Synced.file {w : World} (hs : Synced parse w) {e : FileEvent} {d : Disk}
    (h : w.disk.apply e = some d) : Synced parse { w with disk := d } := by
  obtain ⟨v, hv, hmod, hclock, -⟩ := hs.source
  cases e with
  | write v' =>
    simp only [Disk.apply] at h
    split at h
    · cases h
      refine ⟨hs.path_ne, fun cur hcur => ?_, v, hv, hmod, by dsimp only; omega,
        fun cur hcur => .inr ?_⟩ <;> cases hcur
      · exact le_rfl
      · omega
    · cases h
  | remove =>
    cases h
    exact ⟨hs.path_ne, fun _ h => (nomatch h), v, hv, hmod, hclock, fun _ h => (nomatch h)⟩

theorem Synced.run {w w' : World} (hs : Synced parse w) :
    ∀ events : List CacheEvent, w.run parse events = some w' → Synced parse w' := by
  intro events
  induction events generalizing w with
  | nil => intro h; cases h; exact hs
  | cons e es ih =>
    simp only [World.run, Option.bind_eq_some]
    rintro ⟨w₁, h₁, h⟩
    refine ih ?_ h
    cases e with
    | file e =>
      simp only [World.step, Option.map_eq_some'] at h₁
      obtain ⟨d, hd, rfl⟩ := h₁
      exact hs.file hd
    | tick => cases h₁; exact hs.tick

/-- A tick on a synced world whose file exists and parses installs that file's policy. -/
theorem Synced.tick_engine {w : World} (hs : Synced parse w) {cur : FileVersion}
    {pol : CompiledPolicy} (hcur : w.disk.file = some cur) (hp : parse cur.data = some pol) :
    (w.cache.checkReload parse w.disk.file).engine = ⟨pol⟩ := by
  obtain ⟨v, hv, hmod, -, hfile⟩ := hs.source
  rw [hcur]
  by_cases hlt : w.cache.modTime < cur.modTime
  · rw [checkReload_reloads hs.path_ne hlt hp]
  · rw [checkReload_of_le _ (Nat.not_lt.1 hlt)]
    rcases hfile cur hcur with rfl | hold
    · simpa [newEngine, hs.path_ne, hp] using hv.symm
    · omega

/-- **Without a rewrite between `NewEngine` and `NewWatchingCache`, every tick at which the file
exists and parses ends with the engine holding that file's policy.** -/
theorem tick_installs_current {path : String} (hpath : path ≠ "") {v₀ : FileVersion}
    {events : List CacheEvent} {w : World} (h : watchRun parse path v₀ [] events = some w)
    {cur : FileVersion} {pol : CompiledPolicy} (hcur : w.disk.file = some cur)
    (hp : parse cur.data = some pol) :
    (w.cache.checkReload parse w.disk.file).engine = ⟨pol⟩ := by
  unfold watchRun at h
  split at h
  · cases h
  · next e he =>
    simp only [Disk.applyAll, Option.some_bind] at h
    have hs : Synced parse ⟨⟨some v₀, v₀.modTime⟩, newWatchingCache e path (some v₀)⟩ :=
      ⟨hpath, fun _ h => (Option.some.inj h).symm ▸ le_rfl, v₀, he,
        by simp [newWatchingCache, hpath], le_rfl, fun _ h => .inl (Option.some.inj h).symm⟩
    exact (hs.run events h).tick_engine hcur hp

end Synced

/-! ## A rewrite before the cache starts -/

/-- Ticks that change nothing leave a world as it is, however many there are. -/
theorem World.run_ticks_of_fixed {parse : List UInt8 → Option CompiledPolicy} {w : World}
    (h : w.step parse .tick = some w) : ∀ n, w.run parse (List.replicate n .tick) = some w
  | 0 => rfl
  | n + 1 => by rw [List.replicate_succ, World.run, h, Option.some_bind, World.run_ticks_of_fixed h n]

def strictPolicy : CompiledPolicy := ⟨[], ["port_scan"], "v1"⟩

def openPolicy : CompiledPolicy := ⟨[], [], "v2"⟩

/-- The file holding `strictPolicy`, written at time 1; its bytes stand for the JSON. -/
def strictVersion : FileVersion := ⟨[1], 1⟩

/-- The file holding `openPolicy`, written at time 2. -/
def openVersion : FileVersion := ⟨[2], 2⟩

/-- A `json.Unmarshal` that knows the two versions. -/
def parseVersions (data : List UInt8) : Option CompiledPolicy :=
  if data = strictVersion.data then some strictPolicy
  else if data = openVersion.data then some openPolicy else none

/-- The world once `NewWatchingCache` has run after the rewrite: the engine from the first
version, the time of the second. -/
def staleWorld : World := ⟨⟨some openVersion, 2⟩, ⟨⟨strictPolicy⟩, "policy.json", 2⟩⟩

theorem stale_after_early_rewrite (n : Nat) :
    ∃ w, watchRun parseVersions "policy.json" strictVersion [.write openVersion]
        (List.replicate (n + 1) .tick) = some w ∧
      w.disk.file = some openVersion ∧ parseVersions openVersion.data = some openPolicy ∧
      w.cache.engine = ⟨strictPolicy⟩ ∧
      (w.cache.engine.evaluate "10.0.0.1" "port_scan").allowed = false :=
  ⟨staleWorld, World.run_ticks_of_fixed
    (show staleWorld.step parseVersions .tick = some staleWorld from rfl) (n + 1), rfl, rfl, rfl, rfl⟩

end HexStrikeGateway.Policy
