import HexStrikeGateway.Http.Message

/-!
# The HTTP side of the proxy

`proxy/handler.go` and `proxy/metering_middleware.go`: the request envelope, the handler at the
end of the chain that forwards it to `MCPProxy.SendRequest`, and `ExtractToolName`, which the
policy stage uses to name the tool a `tools/call` invokes.

`json.RawMessage` keeps the bytes of a value; here it keeps the value itself (`none` for an
absent field, a `nil` `RawMessage`). Nothing downstream depends on the bytes beyond the value
they encode. `SendRequest` enters as `send`, the answer the bridge gives for one call (its error
as `err.Error()`); `MCPProxy` itself is `Proxy.Bridge`.

`extractToolName_of_unique` says which tool `ExtractToolName` names when one member of the params
object is named `name`.
-/

namespace HexStrikeGateway.Proxy

open HexStrikeGateway.JsonValue HexStrikeGateway.Http

structure MCPRequest where
  method : String
  params : Option JsonValue

/-- `json.Unmarshal` into a fresh `MCPRequest`, of the value the body scanned to (`none` when
it is not well-formed JSON). -/
def MCPRequest.decode : Option JsonValue → Option MCPRequest
  | some .null => some ⟨"", none⟩
  | some (.obj ms) => (stringField "method" ms "").map fun m => ⟨m, rawField "params" ms none⟩
  | _ => none

/-- `json.Unmarshal` into `struct { Name string }`. -/
def decodeName : JsonValue → Option String
  | .null => some ""
  | .obj ms => stringField "name" ms ""
  | _ => none

/-- `ExtractToolName`: the decoded `name`, or `"unknown"` when the params do not decode (an
absent `params` is a `nil` `RawMessage`, which does not) or the name is empty. -/
def extractToolName (params : Option JsonValue) : String :=
  match params.bind decodeName with
  | some name => if name = "" then "unknown" else name
  | none => "unknown"

/-- `NewMCPHandler(proxy)`: read and decode the body, require a method, forward. -/
def newMCPHandler (parse : List UInt8 → Option JsonValue) (sizes : Nat → Nat)
    (send : String → Option JsonValue → Except String (Option JsonValue)) (r : Request) :
    Outcome :=
  let body := readAll sizes ⟨r.body, maxBody⟩
  match MCPRequest.decode (parse body) with
  | none => .only (.httpError 400 "invalid JSON")
  | some req =>
    if req.method = "" then .only (.httpError 400 "method is required")
    else
      match send req.method req.params with
      | .error err => ⟨.mcp 500 none err, some (req.method, req.params), none, none⟩
      | .ok result => ⟨.mcp 200 result "", some (req.method, req.params), none, none⟩

/-! ## What the handler forwards -/

/-- The handler forwards exactly the method and params it decoded from the body it read. -/
theorem newMCPHandler_sent {parse : List UInt8 → Option JsonValue} {sizes : Nat → Nat}
    {send : String → Option JsonValue → Except String (Option JsonValue)} {r : Request}
    {m : String} {p : Option JsonValue}
    (h : (newMCPHandler parse sizes send r).sent = some (m, p)) :
    ∃ req, MCPRequest.decode (parse (readAll sizes ⟨r.body, maxBody⟩)) = some req ∧
      req.method = m ∧ req.params = p ∧ m ≠ "" := by
  dsimp only [newMCPHandler] at h
  cases hreq : MCPRequest.decode (parse (readAll sizes ⟨r.body, maxBody⟩)) with
  | none => simp [hreq] at h
  | some req =>
    simp only [hreq] at h
    by_cases hm : req.method = ""
    · simp [hm] at h
    · refine ⟨req, rfl, ?_⟩
      cases hs : send req.method req.params <;> simp only [hm, hs, if_false,
        Option.some.injEq, Prod.mk.injEq] at h <;> exact ⟨h.1, h.2, h.1 ▸ hm⟩

/-! ## Which `name` `ExtractToolName` reads -/

/-- The sentinel stands in for an empty name, so the tag is never empty. -/
theorem extractToolName_ne_empty (params : Option JsonValue) : extractToolName params ≠ "" := by
  unfold extractToolName
  split
  · split <;> simp_all
  · simp

/-- Params with exactly one member named `name` up to case folding, holding a non-empty string,
name that string. -/
theorem extractToolName_of_unique (ms₁ ms₂ : List (String × JsonValue)) (k t : String)
    (hk : keyMatches k "name" = true) (hothers : ∀ m ∈ ms₁ ++ ms₂, keyMatches m.1 "name" = false)
    (ht : t ≠ "") : extractToolName (some (.obj (ms₁ ++ (k, .str t) :: ms₂))) = t := by
  simp [extractToolName, decodeName, stringField_of_unique "name" t "" ms₁ ms₂ k hk hothers, ht]

end HexStrikeGateway.Proxy
