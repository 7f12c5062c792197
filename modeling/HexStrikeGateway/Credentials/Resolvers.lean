import HexStrikeGateway.Json

/-!
# Credential resolvers

`credentials/broker.go` and `setec.go`: the four sources the broker asks for a credential. The
environment is read directly; `SopsResolver` and `KDBXResolver` run a command (`sops`, `curl`)
and read its output; `SetecResolver` makes a GET with its HTTP client and decodes the JSON body.
What they read from outside, and the library calls this development leaves abstract, enter as a
`Host`. A resolver answers Go's `(string, error)`; every resolver here returns `""` with an
error, so the answer is an `Except`.

Each resolver builds its request by splicing the key into a format string, unescaped, and
`KDBXResolver` returns the sidecar's whole answer rather than a value taken from it. The
requests are separate definitions (`sopsCommand`, `kdbxCommand`, `setecURL`) so that statements
can say what is asked for.
-/

namespace HexStrikeGateway.Credentials

/-- An HTTP response, as far as `SetecResolver` reads it. -/
structure HttpResponse where
  statusCode : Nat
  body : List UInt8

/-- What the resolvers read from outside the gateway, and the library functions they call that
are not modelled here. `C` is the type of `*http.Client` values. -/
structure Host (C : Type) where
  getenv : String → String
  /-- `strings.ToUpper` (Unicode case mapping). -/
  toUpper : String → String
  /-- `exec.Command(argv...).Output()`: the command's standard output, or the text of its error. -/
  output : List String → Except String String
  /-- `client.Get(url)`: the response, or the text of its error. -/
  get : C → String → Except String HttpResponse
  scan : List UInt8 → Option JsonValue

/-- The errors the resolvers return, before they are rendered to text. A wrapped error (`%w`)
keeps the text of the error it wraps. -/
inductive ResolveError where
  | envNotSet (envKey : String)
  | sopsNotConfigured
  | sopsDecrypt (err : String)
  | kdbxNotConfigured
  | kdbxResolve (err : String)
  | kdbxNotFound (key : String)
  | setecNotConfigured
  | setecRequest (err : String)
  | setecStatus (key : String) (statusCode : Nat)
  /-- `setec decode: %w`; the decoder's own message is not modelled. -/
  | setecDecode
  deriving DecidableEq, Repr

/-- The text of an error, as the source formats it; `quote` is Go's `%q`. -/
def ResolveError.text (quote : String → String) : ResolveError → String
  | .envNotSet envKey => "env " ++ envKey ++ " not set"
  | .sopsNotConfigured => "sops file path not configured"
  | .sopsDecrypt err => "sops decrypt: " ++ err
  | .kdbxNotConfigured => "kdbx endpoint not configured"
  | .kdbxResolve err => "kdbx resolve: " ++ err
  | .kdbxNotFound key => "kdbx: key " ++ quote key ++ " not found"
  | .setecNotConfigured => "setec base URL not configured"
  | .setecRequest err => "setec request: " ++ err
  | .setecStatus key code => "setec " ++ key ++ ": " ++ toString code
  | .setecDecode => "setec decode"

/-! ## Library functions -/

/-- `unicode.IsSpace`: the Latin-1 spaces, and the other `White_Space` runes. -/
def isSpace (c : Char) : Bool :=
  [0x09, 0x0A, 0x0B, 0x0C, 0x0D, 0x20, 0x85, 0xA0, 0x1680, 0x2028, 0x2029, 0x202F, 0x205F,
    0x3000].contains c.toNat || (0x2000 ≤ c.toNat && c.toNat ≤ 0x200A)

def trimSpace (s : String) : String :=
  ⟨((s.toList.dropWhile isSpace).reverse.dropWhile isSpace).reverse⟩

def contains (s substr : String) : Bool :=
  s.toList.tails.any (substr.toList.isPrefixOf ·)

/-! ## The resolvers -/

structure EnvResolver where

structure SopsResolver where
  filePath : String

structure KDBXResolver where
  endpoint : String

structure SetecResolver (C : Type) where
  baseURL : String
  httpClient : C

/-- The variable `EnvResolver.Resolve` reads:
`strings.ToUpper(strings.ReplaceAll(key, ".", "_"))`. -/
def envKey (h : Host C) (key : String) : String :=
  h.toUpper ⟨key.toList.map fun c => if c = '.' then '_' else c⟩

def EnvResolver.resolve (_ : EnvResolver) (h : Host C) (key : String) :
    Except ResolveError String :=
  let val := h.getenv (envKey h key)
  if val = "" then .error (.envNotSet (envKey h key)) else .ok val

/-- The `--extract` argument of `SopsResolver.Resolve`: ``fmt.Sprintf(`["%s"]`, key)``. -/
def sopsExtract (key : String) : String := "[\"" ++ key ++ "\"]"

/-- The command `SopsResolver.Resolve` runs. -/
def sopsCommand (filePath key : String) : List String :=
  ["sops", "--decrypt", "--extract", sopsExtract key, filePath]

def SopsResolver.resolve (r : SopsResolver) (h : Host C) (key : String) :
    Except ResolveError String :=
  if r.filePath = "" then .error .sopsNotConfigured
  else
    match h.output (sopsCommand r.filePath key) with
    | .error err => .error (.sopsDecrypt err)
    | .ok out => .ok (trimSpace out)

/-- The JSON-RPC request `KDBXResolver.Resolve` posts, the key spliced in by `%s`. -/
def kdbxBody (key : String) : String :=
  "\x7b\"jsonrpc\":\"2.0\",\"id\":1,\"method\":\"tools/call\",\"params\":\x7b\"name\":" ++
    "\"juggler_keys_resolve\",\"arguments\":\x7b\"query\":\"" ++ key ++ "\"\x7d\x7d\x7d"

/-- The command `KDBXResolver.Resolve` runs. -/
def kdbxCommand (endpoint key : String) : List String :=
  ["curl", "-sf", "-H", "Content-Type: application/json", "-d", kdbxBody key, endpoint]

def KDBXResolver.resolve (r : KDBXResolver) (h : Host C) (key : String) :
    Except ResolveError String :=
  if r.endpoint = "" then .error .kdbxNotConfigured
  else
    match h.output (kdbxCommand r.endpoint key) with
    | .error err => .error (.kdbxResolve err)
    | .ok out =>
      let result := trimSpace out
      if result = "" || contains result "\"error\"" then .error (.kdbxNotFound key)
      else .ok result

/-- The URL `SetecResolver.Resolve` gets: `fmt.Sprintf("%s/api/v1/secret/%s", BaseURL, key)`. -/
def setecURL (baseURL key : String) : String := baseURL ++ "/api/v1/secret/" ++ key

/-- `json.NewDecoder(body).Decode(&result)` into `struct { Value string }` tagged `value`: the
string of the last `value` member, `""` when there is none. A body that does not scan, that is
not an object or `null`, or whose `value` holds another kind, is an error (`none`). -/
def decodeValue (scan : List UInt8 → Option JsonValue) (body : List UInt8) : Option String :=
  match scan body with
  | some (.obj members) => JsonValue.stringField "value" members ""
  | some .null => some ""
  | _ => none

def SetecResolver.resolve (r : SetecResolver C) (h : Host C) (key : String) :
    Except ResolveError String :=
  if r.baseURL = "" then .error .setecNotConfigured
  else
    match h.get r.httpClient (setecURL r.baseURL key) with
    | .error err => .error (.setecRequest err)
    | .ok resp =>
      if resp.statusCode ≠ 200 then .error (.setecStatus key resp.statusCode)
      else
        match decodeValue h.scan resp.body with
        | none => .error .setecDecode
        | some value => .ok value

/-- The resolvers of the package, as values of the `Resolver` interface. -/
inductive Resolver (C : Type) where
  | env (r : EnvResolver)
  | sops (r : SopsResolver)
  | kdbx (r : KDBXResolver)
  | setec (r : SetecResolver C)

def Resolver.name : Resolver C → String
  | .env _ => "env"
  | .sops _ => "sops"
  | .kdbx _ => "kdbx"
  | .setec _ => "setec"

def Resolver.resolve (h : Host C) : Resolver C → String → Except ResolveError String
  | .env r => r.resolve h
  | .sops r => r.resolve h
  | .kdbx r => r.resolve h
  | .setec r => r.resolve h

/-! ## What the resolvers ask for and return -/

/-- A string with no space at either end. -/
def Unpadded (s : String) : Prop :=
  (∀ c ∈ s.toList.head?, isSpace c = false) ∧ ∀ c ∈ s.toList.getLast?, isSpace c = false

theorem dropWhile_of_head {p : Char → Bool} {l : List Char} (h : ∀ c ∈ l.head?, p c = false) :
    l.dropWhile p = l := by
  cases l with
  | nil => rfl
  | cons c l => exact List.dropWhile_cons_of_neg (by simpa using h)

/-- `TrimSpace` takes off any run of spaces around text with no space at either end. -/
theorem trimSpace_padded {ws₁ ws₂ : List Char} {s : String} (h₁ : ∀ c ∈ ws₁, isSpace c = true)
    (h₂ : ∀ c ∈ ws₂, isSpace c = true) (hs : Unpadded s) :
    trimSpace ⟨ws₁ ++ s.toList ++ ws₂⟩ = s := by
  obtain ⟨l⟩ := s
  obtain ⟨hh, ht⟩ := hs
  apply String.ext
  show (((ws₁ ++ l ++ ws₂).dropWhile isSpace).reverse.dropWhile isSpace).reverse = l
  rw [List.append_assoc, List.dropWhile_append_of_pos h₁]
  cases l with
  | nil => simp [List.dropWhile_eq_nil_iff.2 h₂]
  | cons c l =>
    rw [@dropWhile_of_head isSpace (c :: l ++ ws₂) hh, List.reverse_append,
      List.dropWhile_append_of_pos (fun x hx => h₂ x (List.mem_reverse.1 hx)),
      dropWhile_of_head (by rwa [List.head?_reverse]), List.reverse_reverse]

/-- `SopsResolver` returns what `sops` prints for the extract expression of the key, trimmed. -/
theorem SopsResolver.resolve_printed {r : SopsResolver} {h : Host C} {key s : String}
    {ws₁ ws₂ : List Char} (hp : r.filePath ≠ "")
    (hout : h.output (sopsCommand r.filePath key) = .ok ⟨ws₁ ++ s.toList ++ ws₂⟩)
    (h₁ : ∀ c ∈ ws₁, isSpace c = true) (h₂ : ∀ c ∈ ws₂, isSpace c = true) (hs : Unpadded s) :
    r.resolve h key = .ok s := by
  rw [SopsResolver.resolve, if_neg hp, hout]
  exact congrArg Except.ok (trimSpace_padded h₁ h₂ hs)

/-- The extract expression of a key holding `"][" ` is that of two keys: `["a"]["b"]`, which
`sops` reads as the path `a`, then `b`. -/
theorem sopsExtract_append (a b : String) :
    sopsExtract (a ++ "\"][\"" ++ b) = sopsExtract a ++ sopsExtract b := by
  simp only [sopsExtract, String.append_assoc]
  rfl

/-- What `KDBXResolver` returns is the sidecar's whole output, trimmed: nothing is taken out of
the JSON-RPC response. -/
theorem KDBXResolver.resolve_eq_output {r : KDBXResolver} {h : Host C} {key v : String}
    (hr : r.resolve h key = .ok v) :
    ∃ out, h.output (kdbxCommand r.endpoint key) = .ok out ∧ v = trimSpace out ∧ v ≠ "" ∧
      contains v "\"error\"" = false := by
  unfold KDBXResolver.resolve at hr
  split at hr
  · cases hr
  · split at hr
    · cases hr
    · next out hout =>
      dsimp only at hr
      split at hr
      · cases hr
      · next hne =>
        cases hr
        simp only [Bool.or_eq_true, decide_eq_true_eq, not_or, Bool.not_eq_true] at hne
        exact ⟨out, hout, rfl, hne.1, hne.2⟩

/-- The answer of an MCP `tools/call` that carries the secret `s3cret` as its text content. -/
def sidecarResult : String :=
  "\x7b\"jsonrpc\":\"2.0\",\"id\":1,\"result\":\x7b\"content\":[\x7b\"type\":\"text\"," ++
    "\"text\":\"s3cret\"\x7d]\x7d\x7d"

/-- A sidecar at `http://localhost:8080/mcp` that holds `s3cret` under `github.token` and answers
the request `KDBXResolver` makes for it with `sidecarResult`. -/
def sidecarHost : Host Unit where
  getenv _ := ""
  toUpper s := s
  output argv :=
    if argv = kdbxCommand "http://localhost:8080/mcp" "github.token" then .ok (sidecarResult ++ "\n")
    else .error "exit status 22"
  get _ _ := .error "connection refused"
  scan _ := none

theorem kdbx_returns_whole_response :
    KDBXResolver.resolve ⟨"http://localhost:8080/mcp"⟩ sidecarHost "github.token" =
      .ok sidecarResult ∧ sidecarResult ≠ "s3cret" :=
  ⟨rfl, by decide⟩

/-- The part of a URL before its query and fragment: `url.Parse` cuts the fragment at the first
`#`, then the query at the first `?`. -/
def beforeQuery (u : String) : String :=
  ⟨u.toList.takeWhile fun c => c != '?' && c != '#'⟩

/-- A key `a?b` or `a#b` asks setec for the secret `a`: the rest of the key is the query or the
fragment of the URL. -/
theorem setecURL_cut {baseURL a b : String} {c : Char} (hc : c = '?' ∨ c = '#')
    (h : ∀ x ∈ (setecURL baseURL a).toList, x ≠ '?' ∧ x ≠ '#') :
    beforeQuery (setecURL baseURL (a ++ ⟨c :: b.toList⟩)) = setecURL baseURL a := by
  have hsplit : (setecURL baseURL (a ++ ⟨c :: b.toList⟩)).toList =
      (setecURL baseURL a).toList ++ c :: b.toList := by
    simp [setecURL, String.append_assoc]
  apply String.ext
  show List.takeWhile _ (setecURL baseURL (a ++ ⟨c :: b.toList⟩)).toList = (setecURL baseURL a).data
  rw [hsplit, List.takeWhile_append_of_pos (fun x hx => by simpa using h x hx),
    List.takeWhile_cons_of_neg (by rcases hc with rfl | rfl <;> simp), List.append_nil]
  rfl

/-- `SetecResolver` returns the `value` of a 200 answer's object when one member is named so. -/
theorem SetecResolver.resolve_value {r : SetecResolver C} {h : Host C} {key s : String}
    {body : List UInt8} {ms₁ ms₂ : List (String × JsonValue)} (hb : r.baseURL ≠ "")
    (hget : h.get r.httpClient (setecURL r.baseURL key) = .ok ⟨200, body⟩)
    (hscan : h.scan body = some (.obj (ms₁ ++ ("value", .str s) :: ms₂)))
    (honly : ∀ m ∈ ms₁ ++ ms₂, JsonValue.keyMatches m.1 "value" = false) :
    r.resolve h key = .ok s := by
  simp [SetecResolver.resolve, hb, hget, decodeValue, hscan,
    JsonValue.stringField_of_unique "value" s "" ms₁ ms₂ "value" (by simp) honly]

def newKDBXResolver (endpoint : String) : KDBXResolver := ⟨endpoint⟩

/-- `NewSetecResolverWithClient`: a `nil` client is replaced by `defaultClient`, the
`&http.Client{Timeout: 10 * time.Second}` the source builds. -/
def newSetecResolverWithClient (defaultClient : C) (baseURL : String) (client : Option C) :
    SetecResolver C :=
  ⟨baseURL, client.getD defaultClient⟩

def newSetecResolver (defaultClient : C) (baseURL : String) : SetecResolver C :=
  newSetecResolverWithClient defaultClient baseURL none

end HexStrikeGateway.Credentials
