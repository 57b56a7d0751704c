import ExitContract.Binary64
import ExitContract.Keyed

/-!
# JSON values

## Main definitions

* `Json` — the type
* `Json.field?` — a field of an object
-/

namespace ExitContract

/-- A JSON value. A whole number without a fraction or an exponent is kept exactly as far as 64 bits
hold it; every other number is a floating-point one. The fields of an object that was read are in
order of their names. -/
inductive Json
  | null
  | boolean (b : Bool)
  | natural (n : Nat)
  /-- The number `-(n + 1)`. -/
  | negative (n : Nat)
  | real (x : Binary64)
  | text (s : String)
  | list (items : List Json)
  | object (fields : List (String × Json))
  deriving Repr

namespace Json

instance : Inhabited Json := ⟨.null⟩

/-- A whole number. -/
def int : Int → Json
  | .ofNat n => .natural n
  | .negSucc n => .negative n

/-- A text, or null. -/
def ofText? : Option String → Json
  | none => .null
  | some s => .text s

/-- A list of texts. -/
def texts (ss : List String) : Json := .list (ss.map .text)

/-- A field of an object. -/
def field? (j : Json) (name : String) : Option Json :=
  match j with
  | .object fields => List.lookup name fields
  | _ => none

/-- The object with these fields; of two fields of one name the later one counts. -/
def ofFields (fields : List (String × Json)) : Json := .object (Keyed.ofList fields)

end Json

end ExitContract
