import Mathlib.Data.List.Forall2
import HexStrikeGateway.Policy.Engine

/-!
# Laws of the policy engine

`Evaluate` is written in engine.go as a loop over the denied list and a loop over the grants.
`evaluate_eq` says once what the two loops compute, with membership for the first and `find?`
for the second; `evaluate_allowed_iff` then reads off when a call is allowed, as a property of
the policy's grants and denials rather than of their order. Every law below comes from these two
lemmas and from `evaluate_congr`: two engines whose denied lists agree on the tool, whose grant
lists are both empty or both not, and whose first authorising grants give the same allow, decide
the call alike.

The laws are about editing a policy: reordering its lists (`Reordering`), adding a grant or a
denial. Reordering the grants may change which grant a call is allowed through, and so its audit
level and rate limit, but never whether it is allowed.
-/

namespace HexStrikeGateway.Policy

/-! ## What `Evaluate` computes -/

theorem denied_any_iff (denied : List String) (tool : String) :
    denied.any (· == tool) = true ↔ tool ∈ denied := by
  simp [List.any_eq_true]

theorem evaluate_eq (e : Engine) (caller tool : String) :
    e.evaluate caller tool =
      if tool ∈ e.policy.denied then .deny .explicitlyDenied
      else if e.policy.grants.length = 0 then ⟨true, .defaultAllow, "standard", 0⟩
      else ((e.policy.grants.find? (grantApplies caller tool)).map .granted).getD
        (.deny .noMatchingGrant) := by
  simp only [Engine.evaluate, denied_any_iff, scan_eq]

@[simp] theorem allowed_getD_granted (o : Option Grant) (r : Reason) :
    ((o.map Decision.granted).getD (.deny r)).allowed = o.isSome := by
  cases o <;> rfl

/-- When `Evaluate` allows: the tool is not denied, and the policy either has no grants or has a
grant that authorises the call. -/
theorem evaluate_allowed_iff (e : Engine) (caller tool : String) :
    (e.evaluate caller tool).allowed = true ↔
      tool ∉ e.policy.denied ∧
        (e.policy.grants = [] ∨ ∃ g ∈ e.policy.grants, Authorises caller tool g) := by
  rw [evaluate_eq]
  by_cases hd : tool ∈ e.policy.denied
  · simp [hd, Decision.deny]
  · by_cases hg : e.policy.grants = []
    · simp [hd, hg]
    · simp [hd, hg, List.find?_isSome, ← decide_authorises]

/-- Two engines decide a call alike when their denied lists agree on the tool, their grant lists
are both empty or both not, and their first authorising grants give the same allow. -/
theorem evaluate_congr {e e' : Engine} {caller tool : String}
    (hd : tool ∈ e'.policy.denied ↔ tool ∈ e.policy.denied)
    (hg : e'.policy.grants.length = 0 ↔ e.policy.grants.length = 0)
    (hf : (e'.policy.grants.find? (grantApplies caller tool)).map Decision.granted =
      (e.policy.grants.find? (grantApplies caller tool)).map Decision.granted) :
    e'.evaluate caller tool = e.evaluate caller tool := by
  simp only [evaluate_eq, hd, hg, hf]

/-- The same for `EvaluateWithParams`, whose second scan reads the constraints of the grant it
finds: here the two engines find the same grant. -/
theorem evaluateWithParams_congr {e e' : Engine} {caller tool : String} (params : StrMap)
    (hd : tool ∈ e'.policy.denied ↔ tool ∈ e.policy.denied)
    (hg : e'.policy.grants.length = 0 ↔ e.policy.grants.length = 0)
    (hf : e'.policy.grants.find? (grantApplies caller tool) =
      e.policy.grants.find? (grantApplies caller tool)) :
    e'.evaluateWithParams caller tool params = e.evaluateWithParams caller tool params := by
  simp only [Engine.evaluateWithParams, evaluate_congr hd hg (congrArg _ hf), rescan_eq, hf]

/-! ## Reordering a policy -/

/-- `g'` is `g` with its capability list reordered. -/
def Grant.AppPerm (g g' : Grant) : Prop :=
  g.app.Perm g'.app ∧ g' = { g with app := g'.app }

theorem Grant.AppPerm.authorises_iff {g g' : Grant} (h : g.AppPerm g') (caller tool : String) :
    Authorises caller tool g' ↔ Authorises caller tool g := by
  rw [h.2]
  simp only [Authorises, h.1.mem_iff]

theorem Grant.AppPerm.granted_eq {g g' : Grant} (h : g.AppPerm g') :
    Decision.granted g' = Decision.granted g := by
  rw [h.2]
  rfl

/-- Grant lists that differ only in the order of each grant's capabilities allow a call through
corresponding grants, and so with the same decision. -/
theorem find?_map_granted_of_appPerm {caller tool : String} {gs gs' : List Grant}
    (h : List.Forall₂ Grant.AppPerm gs gs') :
    (gs'.find? (grantApplies caller tool)).map Decision.granted =
      (gs.find? (grantApplies caller tool)).map Decision.granted := by
  induction h with
  | nil => rfl
  | @cons g g' _ _ hg _ ih =>
    have ha : grantApplies caller tool g' = grantApplies caller tool g := by
      simp only [← decide_authorises, hg.authorises_iff]
    simp only [List.find?_cons, ha]
    cases grantApplies caller tool g
    · exact ih
    · simp [hg.granted_eq]

theorem exists_authorises_of_appPerm {caller tool : String} {gs gs' : List Grant}
    (h : List.Forall₂ Grant.AppPerm gs gs') :
    (∃ g ∈ gs', Authorises caller tool g) ↔ ∃ g ∈ gs, Authorises caller tool g := by
  have hs := congrArg (fun o => o.isSome = true) (@find?_map_granted_of_appPerm caller tool _ _ h)
  simpa [List.find?_isSome, ← decide_authorises] using hs

/-- `q` is `p` with its denied list, its grants, and the capabilities of each grant, reordered. -/
structure Reordering (p q : CompiledPolicy) : Prop where
  denied : p.denied.Perm q.denied
  grants : ∃ gs, List.Forall₂ Grant.AppPerm p.grants gs ∧ gs.Perm q.grants

/-- Reordering a policy never changes whether a call is allowed. -/
theorem Reordering.allowed_eq {e e' : Engine} (h : Reordering e.policy e'.policy)
    (caller tool : String) :
    (e'.evaluate caller tool).allowed = (e.evaluate caller tool).allowed := by
  obtain ⟨gs, happ, hperm⟩ := h.grants
  have hnil : e'.policy.grants = [] ↔ e.policy.grants = [] := by
    simp only [← List.length_eq_zero, ← hperm.length_eq, happ.length_eq]
  have hex : (∃ g ∈ e'.policy.grants, Authorises caller tool g) ↔
      ∃ g ∈ e.policy.grants, Authorises caller tool g := by
    simp only [← hperm.mem_iff, exists_authorises_of_appPerm happ]
  rw [Bool.eq_iff_iff, evaluate_allowed_iff, evaluate_allowed_iff, h.denied.mem_iff, hnil, hex]

/-- An allow of a policy with grants is the allow of its first authorising grant. -/
theorem evaluate_eq_first_grant {e : Engine} {caller tool : String}
    (ha : (e.evaluate caller tool).allowed = true) (hne : e.policy.grants ≠ []) :
    ∃ g, e.policy.grants.find? (grantApplies caller tool) = some g ∧
      e.evaluate caller tool = .granted g := by
  have hnd := ((evaluate_allowed_iff e caller tool).1 ha).1
  have hs : (e.policy.grants.find? (grantApplies caller tool)).isSome := by
    simpa [evaluate_eq, hnd, hne] using ha
  obtain ⟨g, hg⟩ := Option.isSome_iff_exists.1 hs
  exact ⟨g, hg, evaluate_eq_granted e ha hg⟩

/-- **`Evaluate`, as a property of the policy.** A call is allowed exactly when the tool is not
denied and either there are no grants or some grant authorises it; allowed through a grant, the
decision is the first authorising grant's. So reordering grants, denials and capabilities never
changes whether a call is allowed, and reordering denials and capabilities never changes the
decision. -/
theorem evaluate_allowed_characterised (e : Engine) (caller tool : String) :
    ((e.evaluate caller tool).allowed = true ↔
      tool ∉ e.policy.denied ∧
        (e.policy.grants = [] ∨ ∃ g ∈ e.policy.grants, Authorises caller tool g)) ∧
    ((e.evaluate caller tool).allowed = true → e.policy.grants ≠ [] →
      ∃ g, e.policy.grants.find? (fun g => decide (Authorises caller tool g)) = some g ∧
        e.evaluate caller tool = .granted g ∧
        (e.evaluate caller tool).auditLevel = g.auditLevel ∧
        (e.evaluate caller tool).rateLimit = g.rateLimit) ∧
    (∀ e' : Engine, Reordering e.policy e'.policy →
      (e'.evaluate caller tool).allowed = (e.evaluate caller tool).allowed) ∧
    (∀ e' : Engine, e.policy.denied.Perm e'.policy.denied →
      List.Forall₂ Grant.AppPerm e.policy.grants e'.policy.grants →
      e'.evaluate caller tool = e.evaluate caller tool) := by
  refine ⟨evaluate_allowed_iff e caller tool, fun ha hne => ?_,
    fun e' h => h.allowed_eq caller tool, fun e' hd happ => ?_⟩
  · obtain ⟨g, hg, hgr⟩ := evaluate_eq_first_grant ha hne
    exact ⟨g, by rw [decide_authorises, hg], hgr, by rw [hgr]; rfl, by rw [hgr]; rfl⟩
  · exact evaluate_congr hd.mem_iff.symm (by rw [happ.length_eq])
      (find?_map_granted_of_appPerm happ)

/-! ## Adding grants and denials -/

/-- Appending a grant to a policy with grants keeps every allow of `EvaluateWithParams`: the
call is allowed through a grant that `find?` meets before the new one. -/
theorem evaluateWithParams_append_grant {e : Engine} (g : Grant) {caller tool : String}
    (params : StrMap) (hne : e.policy.grants ≠ [])
    (ha : (e.evaluateWithParams caller tool params).allowed = true) :
    (⟨{ e.policy with grants := e.policy.grants ++ [g] }⟩ : Engine).evaluateWithParams
      caller tool params = e.evaluateWithParams caller tool params := by
  have hev := evaluateWithParams_eq_of_allowed e caller tool params ha
  obtain ⟨g₀, hg₀, -⟩ := evaluate_eq_first_grant (hev ▸ ha) hne
  exact evaluateWithParams_congr params Iff.rfl (by simp [hne]) (by simp [List.find?_append, hg₀])

/-- Inserting a grant anywhere into a policy with grants keeps every allow of `Evaluate`. -/
theorem evaluate_insert_grant {e : Engine} (g : Grant) {caller tool : String}
    {gs₁ gs₂ : List Grant} (hgs : e.policy.grants = gs₁ ++ gs₂) (hne : e.policy.grants ≠ [])
    (ha : (e.evaluate caller tool).allowed = true) :
    ((⟨{ e.policy with grants := gs₁ ++ g :: gs₂ }⟩ : Engine).evaluate caller tool).allowed =
      true := by
  obtain ⟨hnd, hex⟩ := (evaluate_allowed_iff e caller tool).1 ha
  obtain ⟨g₀, hg₀, hauth⟩ := hex.resolve_left hne
  have hsub : gs₁ ++ gs₂ ⊆ gs₁ ++ g :: gs₂ :=
    ((List.sublist_cons_self g gs₂).append_left gs₁).subset
  exact (evaluate_allowed_iff _ caller tool).2 ⟨hnd, .inr ⟨g₀, hsub (hgs ▸ hg₀), hauth⟩⟩

/-- Inserting a denial of `d` leaves every decision about another tool as it was. -/
theorem insert_denial_other {e : Engine} {d tool : String} {ds₁ ds₂ : List String}
    (hds : e.policy.denied = ds₁ ++ ds₂) (caller : String) (params : StrMap) (ht : tool ≠ d) :
    (⟨{ e.policy with denied := ds₁ ++ d :: ds₂ }⟩ : Engine).evaluate caller tool =
      e.evaluate caller tool ∧
    (⟨{ e.policy with denied := ds₁ ++ d :: ds₂ }⟩ : Engine).evaluateWithParams
      caller tool params = e.evaluateWithParams caller tool params := by
  have hd : tool ∈ ds₁ ++ d :: ds₂ ↔ tool ∈ e.policy.denied := by simp [hds, ht]
  exact ⟨evaluate_congr hd Iff.rfl rfl, evaluateWithParams_congr params hd Iff.rfl rfl⟩

theorem denied_both {e : Engine} {tool : String} (h : tool ∈ e.policy.denied) (caller : String)
    (params : StrMap) :
    (e.evaluate caller tool).allowed = false ∧
      (e.evaluateWithParams caller tool params).allowed = false := by
  have hden := evaluate_of_denied e caller h
  simp [Engine.evaluateWithParams, hden, Decision.deny]

/-- **Adding grants or denials never revokes an unrelated allow.** For a policy with grants:
appending a grant leaves every allow of `EvaluateWithParams` as it was; inserting a grant
anywhere keeps every allow of `Evaluate`; and inserting a denial of `d` anywhere leaves every
decision about another tool as it was and denies `d`. -/
theorem additive_edits_keep_allows (e : Engine) (g : Grant) (d caller tool : String)
    (params : StrMap) (hne : e.policy.grants ≠ []) :
    ((e.evaluateWithParams caller tool params).allowed = true →
      (⟨{ e.policy with grants := e.policy.grants ++ [g] }⟩ : Engine).evaluateWithParams
        caller tool params = e.evaluateWithParams caller tool params) ∧
    ((e.evaluate caller tool).allowed = true → ∀ gs₁ gs₂, e.policy.grants = gs₁ ++ gs₂ →
      ((⟨{ e.policy with grants := gs₁ ++ g :: gs₂ }⟩ : Engine).evaluate caller tool).allowed
        = true) ∧
    (∀ ds₁ ds₂, e.policy.denied = ds₁ ++ ds₂ →
      (tool ≠ d →
        (⟨{ e.policy with denied := ds₁ ++ d :: ds₂ }⟩ : Engine).evaluate caller tool =
          e.evaluate caller tool ∧
        (⟨{ e.policy with denied := ds₁ ++ d :: ds₂ }⟩ : Engine).evaluateWithParams
          caller tool params = e.evaluateWithParams caller tool params) ∧
      ((⟨{ e.policy with denied := ds₁ ++ d :: ds₂ }⟩ : Engine).evaluate caller d).allowed
        = false ∧
      ((⟨{ e.policy with denied := ds₁ ++ d :: ds₂ }⟩ : Engine).evaluateWithParams
        caller d params).allowed = false) :=
  ⟨evaluateWithParams_append_grant g params hne,
    fun ha _ _ hgs => evaluate_insert_grant g hgs hne ha,
    fun _ _ hds => ⟨insert_denial_other hds caller params,
      denied_both (List.mem_append_right _ (List.mem_cons_self _ _)) caller params⟩⟩

/-- A policy that lets agents run `port_scan`, at a rate limit of 10. -/
def agentPolicy : CompiledPolicy :=
  ⟨[⟨"agent-*", "*", ["port_scan"], StrMap.empty, 10, "full"⟩], [], "v1"⟩

/-- A catch-all grant appended after it. -/
def catchAllGrant : Grant := ⟨"*", "*", ["*"], StrMap.empty, 0, ""⟩

theorem agent_scan_kept_after_append :
    (⟨agentPolicy⟩ : Engine).policy.grants ≠ [] ∧
    ((⟨agentPolicy⟩ : Engine).evaluateWithParams "agent-1" "port_scan" StrMap.empty).allowed =
      true ∧
    (⟨{ agentPolicy with grants := agentPolicy.grants ++ [catchAllGrant] }⟩ : Engine).evaluateWithParams
      "agent-1" "port_scan" StrMap.empty =
      (⟨agentPolicy⟩ : Engine).evaluateWithParams "agent-1" "port_scan" StrMap.empty :=
  have hne : (⟨agentPolicy⟩ : Engine).policy.grants ≠ [] := by simp [agentPolicy]
  have ha : ((⟨agentPolicy⟩ : Engine).evaluateWithParams "agent-1" "port_scan"
      StrMap.empty).allowed = true := by decide
  ⟨hne, ha, (additive_edits_keep_allows ⟨agentPolicy⟩ catchAllGrant "exploit" "agent-1" "port_scan"
    StrMap.empty hne).1 ha⟩

end HexStrikeGateway.Policy
