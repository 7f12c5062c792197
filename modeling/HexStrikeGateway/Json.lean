import Mathlib.Data.List.Basic

/-!
# JSON values, and how `encoding/json` stores them into the gateway's structs

The gateway never parses JSON text itself: it hands bytes to Go's `encoding/json`, which scans
them into a value and then stores that value into a struct by reflection over its field tags.
The scanner is library code and enters this development only as a parameter, a function from
bytes to `Option JsonValue`. The second half is where the gateway's behaviour is decided (which
member a field takes, what `null` does, when a type mismatch makes the whole call fail) and it is
modelled here, on the value, for the flat structs the gateway decodes: `MCPRequest`, the
anonymous `{Name string}` of `ExtractToolName` and `WebhookEvent`.

Objects keep their members in document order, duplicates included. `encoding/json` stores every
member whose key names a field, so the last one wins, and it matches keys case-insensitively
(`foldName`); several results of this development turn on exactly that.
-/

namespace HexStrikeGateway

/-- A JSON value as the scanner produces it. A number keeps its literal text; an object keeps
its members in order, duplicate keys included. -/
inductive JsonValue where
  | null
  | bool (b : Bool)
  | num (text : String)
  | str (s : String)
  | arr (elems : List JsonValue)
  | obj (members : List (String × JsonValue))
  deriving Repr

namespace JsonValue

/-- Go's `foldName` on one rune, as far as it matters against an ASCII field name: ASCII
letters are upper-cased, and the two non-ASCII runes whose `SimpleFold` orbit holds an ASCII
letter (`ſ` and the Kelvin sign) are sent to it. Every other rune, `İ` and `ı` included (each
is its own orbit), folds to a non-ASCII rune and never matches an ASCII one, so it is kept
as it is. -/
def foldRune (c : Char) : Char :=
  if c = 'ſ' then 'S'
  else if c = 'K' then 'K'
  else c.toUpper

/-- Whether the decoder stores a member with key `key` into the field tagged `field`: the exact
name, or else the same name up to `foldName`. -/
def keyMatches (key field : String) : Bool :=
  key.toList.map foldRune == field.toList.map foldRune

/-- The value a `string` field tagged `field` holds after the decoder stores the object
`members` into a struct whose field held `cur`. The last matching member holding a string wins,
and `null` leaves the field as it is. A matching member of any other kind is an
`UnmarshalTypeError`: the decoder goes on, but `Unmarshal` returns the error (`none`), and every
caller in the gateway then discards the struct. -/
def stringField (field : String) : List (String × JsonValue) → String → Option String
  | [], cur => some cur
  | (k, v) :: ms, cur =>
    if keyMatches k field then
      match v with
      | .str s => stringField field ms s
      | .null => stringField field ms cur
      | _ => none
    else stringField field ms cur

/-- The value a `json.RawMessage` field tagged `field` holds after the decoder stores
`members`: the last matching member, whatever its kind (`null` included, which `RawMessage`
keeps as the text `null`), or `cur` when no member matches. -/
def rawField (field : String) : List (String × JsonValue) → Option JsonValue → Option JsonValue
  | [], cur => cur
  | (k, v) :: ms, cur => rawField field ms (if keyMatches k field then some v else cur)

/-! ## Decoding facts -/

@[simp] theorem keyMatches_self (k : String) : keyMatches k k = true := by
  simp [keyMatches]

theorem stringField_of_forall_not (field : String) :
    ∀ (ms : List (String × JsonValue)) (cur : String),
      (∀ m ∈ ms, keyMatches m.1 field = false) → stringField field ms cur = some cur
  | [], _, _ => rfl
  | (k, v) :: ms, cur, h => by
    have hk : keyMatches k field = false := h (k, v) (List.mem_cons_self _ _)
    simp only [stringField, hk, Bool.false_eq_true, ↓reduceIte]
    exact stringField_of_forall_not field ms cur fun m hm => h m (List.mem_cons_of_mem _ hm)

/-- A field that exactly one member names, with a string, takes that string. -/
theorem stringField_of_unique (field : String) (s cur : String) :
    ∀ (ms₁ ms₂ : List (String × JsonValue)) (k : String),
      keyMatches k field = true →
      (∀ m ∈ ms₁ ++ ms₂, keyMatches m.1 field = false) →
      stringField field (ms₁ ++ (k, .str s) :: ms₂) cur = some s
  | [], ms₂, k, hk, h => by
    simp only [List.nil_append, stringField, hk, ↓reduceIte]
    exact stringField_of_forall_not field ms₂ s h
  | (k', v') :: ms₁, ms₂, k, hk, h => by
    have hk' : keyMatches k' field = false := h (k', v') (List.mem_cons_self _ _)
    simp only [List.cons_append, stringField, hk', Bool.false_eq_true, ↓reduceIte]
    exact stringField_of_unique field s cur ms₁ ms₂ k hk
      fun m hm => h m (List.mem_cons_of_mem _ hm)

theorem rawField_of_forall_not (field : String) :
    ∀ (ms : List (String × JsonValue)) (cur : Option JsonValue),
      (∀ m ∈ ms, keyMatches m.1 field = false) → rawField field ms cur = cur
  | [], _, _ => rfl
  | (k, v) :: ms, cur, h => by
    have hk : keyMatches k field = false := h (k, v) (List.mem_cons_self _ _)
    simp only [rawField, hk, Bool.false_eq_true, ↓reduceIte]
    exact rawField_of_forall_not field ms cur fun m hm => h m (List.mem_cons_of_mem _ hm)

end JsonValue

end HexStrikeGateway
