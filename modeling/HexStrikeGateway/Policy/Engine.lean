import Mathlib.Data.List.Basic

/-!
# The policy engine

`policy/engine.go`: grants, the compiled policy, and the two evaluators. `Evaluate` checks the
denied list, then the default-allow escape hatch of an empty grant list, then scans the grants
for the first one that matches the caller, the caller's namespace and the tool. `EvaluateWithParams`
calls `Evaluate` and, on an allow, scans the grants a second time and checks the parameter
constraints of the grant that second scan finds.

Both scans are written here as the loops of the source, with their `continue`s, so that each can
be read against engine.go line by line; `scan_eq` and `rescan_eq` then say what they compute.
The second scan tests the negations the source writes (`!matchCaller || !matchNamespace`,
`cap != toolName && cap != "*"`) and `rescanHit_eq_grantApplies` shows it stops at the same grant
as the first: the constraints checked are always those of the grant that allowed the call.

Strings are lists of runes here, so the model covers valid UTF-8 only. Go's `strings.HasPrefix`,
`HasSuffix`, `TrimPrefix`, `TrimSuffix` and `==` compare bytes; on valid UTF-8 they agree with
the same operations on runes, since UTF-8 is self-synchronising. The patterns and the tool name
come through `encoding/json`, which produces valid UTF-8. The caller does not: it is the
`Tailscale-User-Login` header or `RemoteAddr`, which `net/http` passes on as bytes, so a caller
that is not valid UTF-8 is outside what this module says.
-/

namespace HexStrikeGateway.Policy

/-! ## Data -/

/-- A Go `map[string]string`, as the entries one `range` over it visits, in that order. Go fixes
no order, so no result below may depend on it. A map holds a key at most once. -/
structure StrMap where
  entries : List (String × String)
  nodup : (entries.map Prod.fst).Nodup

/-- `m[k]`, with its `ok`. -/
def StrMap.get? (m : StrMap) (k : String) : Option String := m.entries.lookup k

/-- The empty map (a `nil` map reads the same). -/
def StrMap.empty : StrMap := ⟨[], List.nodup_nil⟩

structure Grant where
  src : String
  dst : String
  app : List String
  parameterConstraints : StrMap
  rateLimit : Int
  auditLevel : String

structure CompiledPolicy where
  grants : List Grant
  denied : List String
  version : String

/-- The reasons `Evaluate` and `EvaluateWithParams` give, before they are rendered to text. -/
inductive Reason where
  | explicitlyDenied
  | defaultAllow
  | grantedBy (src : String)
  | noMatchingGrant
  | paramViolation (param pattern : String)
  deriving DecidableEq, Repr

/-- The text of a reason, as the source formats it; `quote` is Go's `%q` (`strconv.Quote`). -/
def Reason.text (quote : String → String) : Reason → String
  | .explicitlyDenied => "tool is explicitly denied"
  | .defaultAllow => "default-allow"
  | .grantedBy src => "granted by " ++ src
  | .noMatchingGrant => "no matching grant found"
  | .paramViolation p pat => "parameter " ++ quote p ++ " violates constraint " ++ quote pat

structure Decision where
  allowed : Bool
  reason : Reason
  auditLevel : String
  rateLimit : Int
  deriving DecidableEq, Repr

/-- A denial: the source's `Decision{Allowed: false, Reason: …}`, other fields zero. -/
def Decision.deny (r : Reason) : Decision := ⟨false, r, "", 0⟩

/-- The allow a matching grant gives. -/
def Decision.granted (g : Grant) : Decision := ⟨true, .grantedBy g.src, g.auditLevel, g.rateLimit⟩

structure Engine where
  policy : CompiledPolicy

def defaultEngine : Engine := ⟨⟨[], [], "default-allow"⟩⟩

/-! ## Matching -/

def hasPrefix (s p : String) : Bool := p.toList.isPrefixOf s.toList

def hasSuffix (s p : String) : Bool := p.toList.isSuffixOf s.toList

def trimPrefix (s p : String) : String :=
  if hasPrefix s p then ⟨s.toList.drop p.length⟩ else s

def trimSuffix (s p : String) : String :=
  if hasSuffix s p then ⟨s.toList.take (s.length - p.length)⟩ else s

/-- `matchCaller`: `*` matches anyone, a trailing `*` is a prefix match, else equality. -/
def matchCaller (pattern caller : String) : Bool :=
  if pattern = "*" then true
  else if hasSuffix pattern "*" then hasPrefix caller (trimSuffix pattern "*")
  else pattern = caller

/-- `strings.Contains(caller, "@")`: a tailnet identity. -/
def isTailnet (caller : String) : Bool := '@' ∈ caller.toList

def matchNamespace (dst caller : String) : Bool :=
  if dst = "*" then true
  else if dst = "internal" then isTailnet caller
  else if dst = "external" then !isTailnet caller
  else dst = caller

/-- `matchPattern`: `*`, a leading-star suffix glob, a trailing-star prefix glob, or equality. -/
def matchPattern (pattern value : String) : Bool :=
  if pattern = "*" then true
  else if hasPrefix pattern "*" then hasSuffix value (trimPrefix pattern "*")
  else if hasSuffix pattern "*" then hasPrefix value (trimSuffix pattern "*")
  else pattern = value

/-! ## The evaluators, as the source writes them -/

/-- The grant loop of `Evaluate` (engine.go:91-108): first match wins. -/
def scan (caller tool : String) : List Grant → Decision
  | [] => .deny .noMatchingGrant
  | g :: gs =>
    if !matchCaller g.src caller then scan caller tool gs
    else if !matchNamespace g.dst caller then scan caller tool gs
    else if g.app.any (fun cap => cap == tool || cap == "*") then .granted g
    else scan caller tool gs

def Engine.evaluate (e : Engine) (caller tool : String) : Decision :=
  if e.policy.denied.any (· == tool) then .deny .explicitlyDenied
  else if e.policy.grants.length = 0 then ⟨true, .defaultAllow, "standard", 0⟩
  else scan caller tool e.policy.grants

/-- The constraint loop of `EvaluateWithParams` (engine.go:130-139), over the entries in the
order `range` visits them: the first constraint `params` violates. -/
def checkConstraints (params : StrMap) : List (String × String) → Option Decision
  | [] => none
  | (paramName, pattern) :: cs =>
    match params.get? paramName with
    | some val =>
      if !matchPattern pattern val then some (.deny (.paramViolation paramName pattern))
      else checkConstraints params cs
    | none => checkConstraints params cs

/-- The re-scan of `EvaluateWithParams` (engine.go:121-143), with the allow `d` of the first
pass: the first grant whose source and namespace match and which has a capability that is not
skipped has its constraints checked, and `d` stands if they pass. -/
def rescan (caller tool : String) (params : StrMap) (d : Decision) : List Grant → Decision
  | [] => d
  | g :: gs =>
    if !matchCaller g.src caller || !matchNamespace g.dst caller then
      rescan caller tool params d gs
    else if g.app.all (fun cap => cap != tool && cap != "*") then rescan caller tool params d gs
    else (checkConstraints params g.parameterConstraints.entries).getD d

def Engine.evaluateWithParams (e : Engine) (caller tool : String) (params : StrMap) : Decision :=
  let d := e.evaluate caller tool
  if !d.allowed then d else rescan caller tool params d e.policy.grants

/-! ## What the scans compute -/

/-- A grant that `Evaluate`'s loop stops at. -/
def grantApplies (caller tool : String) (g : Grant) : Bool :=
  matchCaller g.src caller && matchNamespace g.dst caller &&
    g.app.any (fun cap => cap == tool || cap == "*")

/-- A grant that the re-scan of `EvaluateWithParams` stops at, with the negations it tests. -/
def rescanHit (caller tool : String) (g : Grant) : Bool :=
  !(!matchCaller g.src caller || !matchNamespace g.dst caller) &&
    !g.app.all (fun cap => cap != tool && cap != "*")

/-- The two scans test the same grants. -/
theorem rescanHit_eq_grantApplies (caller tool : String) :
    rescanHit caller tool = grantApplies caller tool := by
  have skip : ∀ cap : String, (!(cap != tool && cap != "*")) = (cap == tool || cap == "*") := by
    intro cap; simp [bne, Bool.not_and]
  funext g
  simp only [rescanHit, grantApplies, Bool.not_or, Bool.not_not, List.all_eq_not_any_not, skip]

theorem scan_eq (caller tool : String) :
    ∀ gs : List Grant, scan caller tool gs =
      ((gs.find? (grantApplies caller tool)).map .granted).getD (.deny .noMatchingGrant)
  | [] => rfl
  | g :: gs => by
    simp only [scan, List.find?_cons, grantApplies]
    cases matchCaller g.src caller <;> cases matchNamespace g.dst caller <;>
      cases g.app.any (fun cap => cap == tool || cap == "*") <;> simp [scan_eq caller tool gs]

theorem rescan_eq (caller tool : String) (params : StrMap) (d : Decision) :
    ∀ gs : List Grant, rescan caller tool params d gs =
      match gs.find? (grantApplies caller tool) with
      | some g => (checkConstraints params g.parameterConstraints.entries).getD d
      | none => d
  | [] => rfl
  | g :: gs => by
    have hit := congrFun (rescanHit_eq_grantApplies caller tool) g
    simp only [rescanHit] at hit
    simp only [rescan, List.find?_cons, ← hit]
    cases h : (!matchCaller g.src caller || !matchNamespace g.dst caller) <;>
      cases g.app.all (fun cap => cap != tool && cap != "*") <;>
      simp [rescan_eq caller tool params d gs]

/-- A constraint `(k, pat)` that `params` violates: `k` is present and its value fails `pat`. -/
def Violates (params : StrMap) (kp : String × String) : Prop :=
  ∃ v, params.get? kp.1 = some v ∧ matchPattern kp.2 v = false

theorem checkConstraints_eq_none (params : StrMap) :
    ∀ cs : List (String × String),
      checkConstraints params cs = none ↔ ∀ kp ∈ cs, ¬ Violates params kp
  | [] => by simp [checkConstraints]
  | (k, pat) :: cs => by
    have ih := checkConstraints_eq_none params cs
    cases hv : params.get? k with
    | none => simp [checkConstraints, hv, ih, Violates]
    | some v => cases hm : matchPattern pat v <;> simp [checkConstraints, hv, hm, ih, Violates]

theorem checkConstraints_eq_some (params : StrMap) :
    ∀ (cs : List (String × String)) (r : Decision), checkConstraints params cs = some r →
      ∃ kp ∈ cs, Violates params kp ∧ r = .deny (.paramViolation kp.1 kp.2)
  | [], _, h => by simp [checkConstraints] at h
  | (k, pat) :: cs, r, h => by
    cases hv : params.get? k with
    | none =>
      simp only [checkConstraints, hv] at h
      obtain ⟨kp, hkp, hviol, rfl⟩ := checkConstraints_eq_some params cs r h
      exact ⟨kp, List.mem_cons_of_mem _ hkp, hviol, rfl⟩
    | some v =>
      cases hm : matchPattern pat v
      · simp only [checkConstraints, hv, hm, Bool.not_false, ↓reduceIte, Option.some.injEq] at h
        exact ⟨(k, pat), List.mem_cons_self _ _, ⟨v, hv, hm⟩, h.symm⟩
      · simp only [checkConstraints, hv, hm, Bool.not_true, Bool.false_eq_true, ↓reduceIte] at h
        obtain ⟨kp, hkp, hviol, rfl⟩ := checkConstraints_eq_some params cs r h
        exact ⟨kp, List.mem_cons_of_mem _ hkp, hviol, rfl⟩

/-! ## Denial is absolute, parameters only restrict -/

theorem evaluate_of_denied (e : Engine) {tool : String} (caller : String)
    (h : tool ∈ e.policy.denied) : e.evaluate caller tool = .deny .explicitlyDenied := by
  have hd : e.policy.denied.any (· == tool) = true := List.any_eq_true.2 ⟨tool, h, by simp⟩
  simp [Engine.evaluate, hd]

/-- The re-scan returns the first pass's decision or a denial. -/
theorem rescan_eq_or_deny (caller tool : String) (params : StrMap) (d : Decision)
    (gs : List Grant) :
    rescan caller tool params d gs = d ∨ (rescan caller tool params d gs).allowed = false := by
  rw [rescan_eq]
  split
  · cases h : checkConstraints params _ with
    | none => exact .inl rfl
    | some r =>
      obtain ⟨_, _, _, rfl⟩ := checkConstraints_eq_some params _ r h
      exact .inr rfl
  · exact .inl rfl

/-- An allow of `EvaluateWithParams` is `Evaluate`'s decision, unchanged. -/
theorem evaluateWithParams_eq_of_allowed (e : Engine) (caller tool : String) (params : StrMap)
    (h : (e.evaluateWithParams caller tool params).allowed = true) :
    e.evaluateWithParams caller tool params = e.evaluate caller tool := by
  dsimp only [Engine.evaluateWithParams] at h ⊢
  split at h
  · rw [if_pos ‹_›]
  · rw [if_neg ‹_›]
    rcases rescan_eq_or_deny caller tool params (e.evaluate caller tool) e.policy.grants with
      hr | hr
    · exact hr
    · rw [hr] at h; cases h

/-- **Denial is absolute, and parameters can only restrict.** -/
theorem denied_absolute_and_params_restrict (e : Engine) (caller tool : String)
    (params : StrMap) :
    (tool ∈ e.policy.denied →
      (e.evaluate caller tool).allowed = false ∧
        (e.evaluateWithParams caller tool params).allowed = false) ∧
    ((e.evaluateWithParams caller tool params).allowed = true →
      (e.evaluate caller tool).allowed = true ∧
        (e.evaluateWithParams caller tool params).auditLevel = (e.evaluate caller tool).auditLevel ∧
        (e.evaluateWithParams caller tool params).rateLimit = (e.evaluate caller tool).rateLimit) := by
  refine ⟨fun h => ?_, fun h => ?_⟩
  · have hd := evaluate_of_denied e caller h
    simp [Engine.evaluateWithParams, hd, Decision.deny]
  · have heq := evaluateWithParams_eq_of_allowed e caller tool params h
    exact ⟨heq ▸ h, by rw [heq], by rw [heq]⟩

/-! ## One pass, one grant

`EvaluateWithParams` finds its grant by a second scan, written apart from the first, so it is
not evident that it checks the constraints of the grant `Evaluate` allowed through. `SinglePass`
describes an evaluator that scans once, by the plain conditions under which a grant authorises a
call; `evaluateWithParams_single_pass` shows the code meets it. -/

/-- A grant authorises a call when its source matches the caller, its destination the caller's
namespace, and `tool` or `*` is among its capabilities. -/
def Authorises (caller tool : String) (g : Grant) : Prop :=
  matchCaller g.src caller = true ∧ matchNamespace g.dst caller = true ∧
    (tool ∈ g.app ∨ "*" ∈ g.app)

instance (caller tool : String) : DecidablePred (Authorises caller tool) :=
  fun _ => inferInstanceAs (Decidable (_ ∧ _ ∧ _))

theorem decide_authorises (caller tool : String) :
    (fun g => decide (Authorises caller tool g)) = grantApplies caller tool := by
  funext g
  rw [Bool.eq_iff_iff]
  simp [Authorises, grantApplies, List.any_eq_true, and_or_left, exists_or, and_assoc]

/-- The single-pass reference for `EvaluateWithParams`: a denial of `Evaluate` stands; otherwise
the authorising grant is found once, and either some constraint of that grant is violated and
the result is a denial naming one such constraint, or none is and the result is `Evaluate`'s
allow, which that same grant gave. -/
def SinglePass (e : Engine) (caller tool : String) (params : StrMap) (r : Decision) : Prop :=
  if (e.evaluate caller tool).allowed = false then r = e.evaluate caller tool
  else match e.policy.grants.find? (fun g => decide (Authorises caller tool g)) with
    | none => r = e.evaluate caller tool
    | some g =>
      (∃ kp ∈ g.parameterConstraints.entries,
          Violates params kp ∧ r = .deny (.paramViolation kp.1 kp.2)) ∨
      ((∀ kp ∈ g.parameterConstraints.entries, ¬ Violates params kp) ∧
          r = e.evaluate caller tool ∧ e.evaluate caller tool = .granted g)

/-- An allow of `Evaluate` with a grant found is that grant's allow. -/
theorem evaluate_eq_granted (e : Engine) {caller tool : String} {g : Grant}
    (ha : (e.evaluate caller tool).allowed = true)
    (hg : e.policy.grants.find? (grantApplies caller tool) = some g) :
    e.evaluate caller tool = .granted g := by
  unfold Engine.evaluate at ha ⊢
  split at ha
  · simp [Decision.deny] at ha
  · rename_i hd
    have hne : e.policy.grants.length ≠ 0 := by
      intro h0
      rw [List.length_eq_zero.1 h0] at hg
      cases hg
    simp [hd, hne, scan_eq, hg]

/-- Whatever meets the reference allows exactly when `Evaluate` allows and the authorising
grant's constraints, taken as a set, are all met: the iteration order of the map is immaterial. -/
theorem singlePass_allowed_iff {e : Engine} {caller tool : String} {params : StrMap}
    {r : Decision} (h : SinglePass e caller tool params r) :
    r.allowed = true ↔ (e.evaluate caller tool).allowed = true ∧
      ∀ g ∈ e.policy.grants.find? (fun g => decide (Authorises caller tool g)),
        ∀ kp ∈ g.parameterConstraints.entries, ¬ Violates params kp := by
  unfold SinglePass at h
  by_cases hd : (e.evaluate caller tool).allowed = false
  · rw [if_pos hd] at h; subst h; simp [hd]
  · rw [if_neg hd] at h
    have hd' : (e.evaluate caller tool).allowed = true := by simpa using hd
    cases hf : e.policy.grants.find? (fun g => decide (Authorises caller tool g)) with
    | none => simp only [hf] at h; subst h; simp [hd']
    | some g =>
      simp only [hf] at h
      rcases h with ⟨kp, hkp, hv, rfl⟩ | ⟨hall, rfl, -⟩
      · simp only [Decision.deny, Bool.false_eq_true, false_iff, not_and, Option.mem_def,
          Option.some.injEq, forall_eq', not_forall, not_not]
        exact fun _ => ⟨kp, hkp, hv⟩
      · simp only [hd', Option.mem_def, Option.some.injEq, forall_eq', true_and, true_iff]
        exact hall

/-- `EvaluateWithParams` meets the single-pass reference. -/
theorem evaluateWithParams_meets_singlePass (e : Engine) (caller tool : String)
    (params : StrMap) :
    SinglePass e caller tool params (e.evaluateWithParams caller tool params) := by
  unfold SinglePass
  dsimp only [Engine.evaluateWithParams]
  by_cases hd : (e.evaluate caller tool).allowed = false
  · simp [hd]
  · have hd' : (e.evaluate caller tool).allowed = true := by simpa using hd
    simp only [hd', Bool.not_true, Bool.false_eq_true, ↓reduceIte, rescan_eq,
      decide_authorises]
    cases hg : e.policy.grants.find? (grantApplies caller tool) with
    | none => rfl
    | some g =>
      cases hc : checkConstraints params g.parameterConstraints.entries with
      | none =>
        exact .inr ⟨(checkConstraints_eq_none params _).1 hc, by simp [hc],
          evaluate_eq_granted e hd' hg⟩
      | some r =>
        obtain ⟨kp, hkp, hv, rfl⟩ := checkConstraints_eq_some params _ r hc
        exact .inl ⟨kp, hkp, hv, by simp [hc]⟩

/-- **`EvaluateWithParams` is single-pass.** It meets the reference, so the constraints it
checks are those of the grant `Evaluate`'s allow came from, and whether it allows depends on the
constraint map only as a set of entries. -/
theorem evaluateWithParams_single_pass (e : Engine) (caller tool : String) (params : StrMap) :
    SinglePass e caller tool params (e.evaluateWithParams caller tool params) ∧
    ((e.evaluateWithParams caller tool params).allowed = true ↔
      (e.evaluate caller tool).allowed = true ∧
      ∀ g ∈ e.policy.grants.find? (fun g => decide (Authorises caller tool g)),
        ∀ kp ∈ g.parameterConstraints.entries, ¬ Violates params kp) :=
  ⟨evaluateWithParams_meets_singlePass e caller tool params,
    singlePass_allowed_iff (evaluateWithParams_meets_singlePass e caller tool params)⟩

end HexStrikeGateway.Policy
