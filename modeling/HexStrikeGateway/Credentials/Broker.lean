import HexStrikeGateway.Credentials.Resolvers

/-!
# The credential broker

`credentials/broker.go`: `Broker.Resolve` asks its resolvers in order and returns the first value
that comes with no error and is not empty. The loop is written here over any list and any
resolve function (`resolveFirst`), since the broker needs nothing of a resolver but its answer;
`resolveFirst_eq_ok` and `resolveFirst_eq_error` say what it returns and `resolveFirst_append`
how chains compose.

`NewBrokerWithConfig` builds the chain env, sops, kdbx, setec, leaving out kdbx and setec when
they are not configured, and `SetSetecClient` only swaps the HTTP client of setec resolvers. So
whatever the configuration and however often the client is set, a key the environment holds is
resolved from the environment (`env_wins`).
-/

namespace HexStrikeGateway.Credentials

/-- Why `Broker.Resolve` fails. -/
inductive BrokerError where
  | notFound (key : String)
  deriving DecidableEq, Repr

/-- The text of the error; `quote` is Go's `%q`. -/
def BrokerError.text (quote : String → String) : BrokerError → String
  | .notFound key => "credential " ++ quote key ++ " not found in any source"

/-- The test `Broker.Resolve` makes of an answer: `err == nil && val != ""`. -/
def hit {ε : Type} : Except ε String → Bool
  | .ok val => val != ""
  | .error _ => false

/-- The loop of `Broker.Resolve`, over resolvers whose `Resolve` is `resolve`. -/
def resolveFirst {R ε : Type} (resolve : R → String → Except ε String) (key : String) :
    List R → Except BrokerError String
  | [] => .error (.notFound key)
  | r :: rs =>
    match resolve r key with
    | .ok val => if val != "" then .ok val else resolveFirst resolve key rs
    | .error _ => resolveFirst resolve key rs

structure Broker (C : Type) where
  resolvers : List (Resolver C)

def Broker.resolve (h : Host C) (b : Broker C) (key : String) : Except BrokerError String :=
  resolveFirst (fun r => r.resolve h) key b.resolvers

structure BrokerConfig where
  sopsFilePath : String
  kdbxEndpoint : String
  setecBaseURL : String

/-- `NewBrokerWithConfig`; `defaultClient` is the client `NewSetecResolver` makes. -/
def newBrokerWithConfig (defaultClient : C) (cfg : BrokerConfig) : Broker C :=
  let resolvers : List (Resolver C) := [.env ⟨⟩, .sops ⟨cfg.sopsFilePath⟩]
  let resolvers :=
    if cfg.kdbxEndpoint ≠ "" then resolvers ++ [.kdbx (newKDBXResolver cfg.kdbxEndpoint)]
    else resolvers
  let resolvers :=
    if cfg.setecBaseURL ≠ "" then
      resolvers ++ [.setec (newSetecResolver defaultClient cfg.setecBaseURL)]
    else resolvers
  ⟨resolvers⟩

def newBroker (defaultClient : C) : Broker C := newBrokerWithConfig defaultClient ⟨"", "", ""⟩

/-- The body of `SetSetecClient`'s loop: a `*SetecResolver` gets the client. -/
def Resolver.setClient (client : C) : Resolver C → Resolver C
  | .setec r => .setec { r with httpClient := client }
  | r => r

def Broker.setSetecClient (b : Broker C) (client : C) : Broker C :=
  ⟨b.resolvers.map (Resolver.setClient client)⟩

/-! ## What the loop returns -/

section Loop

variable {R ε : Type} {resolve : R → String → Except ε String} {key : String}

theorem hit_eq_true {x : Except ε String} : hit x = true ↔ ∃ v, x = .ok v ∧ v ≠ "" := by
  cases x <;> simp [hit]

theorem resolveFirst_cons_hit {r : R} {val : String} (rs : List R)
    (h : resolve r key = .ok val) (hv : val ≠ "") :
    resolveFirst resolve key (r :: rs) = .ok val := by
  simp [resolveFirst, h, hv]

theorem resolveFirst_cons_miss {r : R} (rs : List R) (h : hit (resolve r key) = false) :
    resolveFirst resolve key (r :: rs) = resolveFirst resolve key rs := by
  simp only [resolveFirst]
  cases hr : resolve r key with
  | ok val => simp_all [hit]
  | error _ => rfl

/-- The loop returns `v` exactly when the first resolver that hits answers `v`. -/
theorem resolveFirst_eq_ok (v : String) :
    ∀ L : List R, resolveFirst resolve key L = .ok v ↔
      ∃ r, L.find? (fun r => hit (resolve r key)) = some r ∧ resolve r key = .ok v
  | [] => by simp [resolveFirst]
  | r :: rs => by
    by_cases hh : hit (resolve r key) = true
    · obtain ⟨val, hval, hv⟩ := hit_eq_true.1 hh
      simp [resolveFirst_cons_hit rs hval hv, List.find?_cons, hval, hit, hv]
    · rw [resolveFirst_cons_miss rs (by simpa using hh), List.find?_cons,
        resolveFirst_eq_ok v rs]
      simp [hh]

/-- The loop fails, with the error naming the key, exactly when every resolver misses. -/
theorem resolveFirst_eq_error (e : BrokerError) :
    ∀ L : List R, resolveFirst resolve key L = .error e ↔
      e = .notFound key ∧ ∀ r ∈ L, hit (resolve r key) = false
  | [] => by simp only [resolveFirst, Except.error.injEq, List.not_mem_nil, IsEmpty.forall_iff,
      implies_true, and_true]; exact eq_comm
  | r :: rs => by
    by_cases hh : hit (resolve r key) = true
    · obtain ⟨val, hval, hv⟩ := hit_eq_true.1 hh
      simp [resolveFirst_cons_hit rs hval hv, hh]
    · rw [resolveFirst_cons_miss rs (by simpa using hh), resolveFirst_eq_error e rs]
      simp [hh]

/-- A chain `L₁ ++ L₂` answers as `L₁` when `L₁` resolves the key, and as `L₂` otherwise. -/
theorem resolveFirst_append (L₂ : List R) :
    ∀ L₁ : List R, resolveFirst resolve key (L₁ ++ L₂) =
      match resolveFirst resolve key L₁ with
      | .ok v => .ok v
      | .error _ => resolveFirst resolve key L₂
  | [] => rfl
  | r :: rs => by
    by_cases hh : hit (resolve r key) = true
    · obtain ⟨val, hval, hv⟩ := hit_eq_true.1 hh
      rw [List.cons_append, resolveFirst_cons_hit _ hval hv, resolveFirst_cons_hit _ hval hv]
    · rw [List.cons_append, resolveFirst_cons_miss _ (by simpa using hh),
        resolveFirst_cons_miss _ (by simpa using hh), resolveFirst_append L₂ rs]

end Loop

/-! ## The chain the gateway builds -/

section Chain

variable {C : Type}

theorem newBrokerWithConfig_resolvers (defaultClient : C) (cfg : BrokerConfig) :
    (newBrokerWithConfig defaultClient cfg).resolvers =
      [.env ⟨⟩, .sops ⟨cfg.sopsFilePath⟩] ++
        (if cfg.kdbxEndpoint ≠ "" then [.kdbx ⟨cfg.kdbxEndpoint⟩] else []) ++
        (if cfg.setecBaseURL ≠ "" then [.setec ⟨cfg.setecBaseURL, defaultClient⟩] else []) := by
  unfold newBrokerWithConfig
  split_ifs <;> rfl

@[simp] theorem Resolver.name_setClient (client : C) (r : Resolver C) :
    (r.setClient client).name = r.name := by
  cases r <;> rfl

theorem Resolver.setClient_of_not_setec {client : C} {r : Resolver C}
    (h : ∀ sr, r ≠ .setec sr) : r.setClient client = r := by
  cases r with
  | setec sr => exact absurd rfl (h sr)
  | _ => rfl

/-- `SetSetecClient` keeps the kinds of the resolvers, in order, and every resolver that is not
a setec one. -/
theorem setSetecClient_keeps (b : Broker C) (client : C) :
    (b.setSetecClient client).resolvers.map Resolver.name = b.resolvers.map Resolver.name ∧
    ∀ (i : Nat) (r : Resolver C), b.resolvers[i]? = some r → (∀ sr, r ≠ .setec sr) →
      (b.setSetecClient client).resolvers[i]? = some r := by
  refine ⟨by simp [Broker.setSetecClient, Function.comp_def], fun i r hi hr => ?_⟩
  simp [Broker.setSetecClient, hi, Resolver.setClient_of_not_setec hr]

/-- The environment comes first in every chain `NewBrokerWithConfig` builds, and stays first
whatever clients are set. -/
theorem head_env_setSetecClients (defaultClient : C) (cfg : BrokerConfig) :
    ∀ clients : List C,
      ((clients.foldl Broker.setSetecClient (newBrokerWithConfig defaultClient cfg)).resolvers).head?
        = some (.env ⟨⟩) := by
  suffices step : ∀ (clients : List C) (b : Broker C), b.resolvers.head? = some (.env ⟨⟩) →
      (clients.foldl Broker.setSetecClient b).resolvers.head? = some (.env ⟨⟩) from
    fun clients => step clients _ (by rw [newBrokerWithConfig_resolvers]; rfl)
  intro clients
  induction clients with
  | nil => exact fun _ h => h
  | cons c cs ih =>
    intro b hb
    apply ih
    simp only [Broker.setSetecClient, List.head?_map, hb, Option.map_some']
    rfl

/-- A key the environment holds is resolved from the environment, by every chain
`NewBrokerWithConfig` builds and whatever clients are set on it. -/
theorem env_wins (h : Host C) (defaultClient : C) (cfg : BrokerConfig) (clients : List C)
    {key : String} (henv : h.getenv (envKey h key) ≠ "") :
    (clients.foldl Broker.setSetecClient (newBrokerWithConfig defaultClient cfg)).resolve h key =
      .ok (h.getenv (envKey h key)) := by
  obtain ⟨rs, hrs⟩ := List.head?_eq_some_iff.1 (head_env_setSetecClients defaultClient cfg clients)
  rw [Broker.resolve, hrs]
  exact resolveFirst_cons_hit rs (by simp [Resolver.resolve, EnvResolver.resolve, henv]) henv

end Chain

/-- **The broker's chain.** `Resolve` returns the value of the first resolver that answers a
non-empty value with no error, and the error naming the key when there is none, so a chain
`L₁ ++ L₂` answers as `L₁` when `L₁` resolves the key and as `L₂` otherwise.
`NewBrokerWithConfig` builds env, sops, then kdbx and setec when configured; `SetSetecClient`
keeps the chain's kinds, order and every resolver but the setec ones; so a key the environment
holds is always resolved from the environment. -/
theorem broker_chain_laws :
    (∀ {R ε : Type} (resolve : R → String → Except ε String) (key v : String) (L : List R),
      resolveFirst resolve key L = .ok v ↔
        ∃ r, L.find? (fun r => hit (resolve r key)) = some r ∧ resolve r key = .ok v) ∧
    (∀ {R ε : Type} (resolve : R → String → Except ε String) (key : String) (L : List R)
      (e : BrokerError),
      resolveFirst resolve key L = .error e ↔
        e = .notFound key ∧ ∀ r ∈ L, hit (resolve r key) = false) ∧
    (∀ {R ε : Type} (resolve : R → String → Except ε String) (key : String) (L₁ L₂ : List R),
      resolveFirst resolve key (L₁ ++ L₂) =
        match resolveFirst resolve key L₁ with
        | .ok v => .ok v
        | .error _ => resolveFirst resolve key L₂) ∧
    (∀ {C : Type} (defaultClient : C) (cfg : BrokerConfig),
      (newBrokerWithConfig defaultClient cfg).resolvers =
        [.env ⟨⟩, .sops ⟨cfg.sopsFilePath⟩] ++
          (if cfg.kdbxEndpoint ≠ "" then [.kdbx ⟨cfg.kdbxEndpoint⟩] else []) ++
          (if cfg.setecBaseURL ≠ "" then [.setec ⟨cfg.setecBaseURL, defaultClient⟩] else [])) ∧
    (∀ {C : Type} (b : Broker C) (client : C),
      (b.setSetecClient client).resolvers.map Resolver.name = b.resolvers.map Resolver.name ∧
      ∀ (i : Nat) (r : Resolver C), b.resolvers[i]? = some r → (∀ sr, r ≠ .setec sr) →
        (b.setSetecClient client).resolvers[i]? = some r) ∧
    (∀ {C : Type} (h : Host C) (defaultClient : C) (cfg : BrokerConfig) (clients : List C)
      (key : String), h.getenv (envKey h key) ≠ "" →
      (clients.foldl Broker.setSetecClient (newBrokerWithConfig defaultClient cfg)).resolve h key
        = .ok (h.getenv (envKey h key))) :=
  ⟨fun _ _ v L => resolveFirst_eq_ok v L,
    fun _ _ L e => resolveFirst_eq_error e L,
    fun _ _ L₁ L₂ => resolveFirst_append L₂ L₁,
    newBrokerWithConfig_resolvers, setSetecClient_keeps,
    fun h d cfg clients _ henv => env_wins h d cfg clients henv⟩

end HexStrikeGateway.Credentials
