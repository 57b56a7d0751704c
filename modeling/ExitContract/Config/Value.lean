import ExitContract.Binary64
import ExitContract.Json.Value
import ExitContract.Keyed
import ExitContract.Toml.Value

/-!
# Settings of unknown shape

What a source says, before anyone checked that it makes sense, and how sources lie on top of each
other.

## Main definitions

* `Setting` — a scalar, a list or a table, each with the source that said it
* `Setting.overlay` — one setting on top of another
* `Setting.ofToml?`, `Setting.ofJson` — what a document says

## Design notes

Two keys are set aside in tables of a TOML document. A table with the key `wrapKey` stands for what it
holds there, whatever else is in it; the key `tagKey` is for values that no document can write, so a
document that uses it says nothing.
-/

namespace ExitContract

/-- Where a setting comes from. -/
inductive Origin
  /-- The built-in settings. -/
  | builtIn
  /-- A file, by the name to show for it. -/
  | file (shown : String)
  /-- The variables of the environment. -/
  | environment
  /-- A document that was handed in. -/
  | document
  deriving DecidableEq, Repr

/-- A setting that is no list and no table. -/
inductive Scalar
  | text (s : String)
  /-- A single character that was written as such. -/
  | character (c : Char)
  | boolean (b : Bool)
  /-- A whole number of a kind that can be negative. -/
  | signed (n : Int)
  /-- A whole number of a kind that cannot. -/
  | unsigned (n : Nat)
  | real (x : Binary64)
  | nothing
  deriving DecidableEq, Repr

/-- A setting with its origin. The entries of a table are in order of their keys. -/
inductive Setting
  | scalar (origin : Origin) (s : Scalar)
  | list (origin : Origin) (items : List Setting)
  | table (origin : Origin) (entries : List (String × Setting))
  deriving Repr

namespace Setting

/-- Where a setting comes from. -/
def origin : Setting → Origin
  | .scalar o _ => o
  | .list o _ => o
  | .table o _ => o

mutual

/-- A setting with a stronger one on top of it: tables are laid on top of each other entry by entry,
and anything else is replaced. -/
def overlay (weak : Setting) : Setting → Setting
  | .table o strong =>
    match weak with
    | .table _ entries => .table o (overlayEntries entries strong)
    | _ => .table o strong
  | strong => strong

/-- The entries of a table with those of a stronger one on top of them. -/
def overlayEntries (weak : List (String × Setting)) : List (String × Setting) →
    List (String × Setting)
  | [] => weak
  | (key, strong) :: rest =>
    overlayEntries
      (Keyed.insert key
        (match List.lookup key weak with
          | some w => overlay w strong
          | none => strong) weak)
      rest

end

/-- The key of a table that stands for what it holds there. -/
def wrapKey : String := "___figment_value_value"

/-- The key that is set aside for values which no document can write. -/
def tagKey : String := "___figment_value_id"

/-- The key under which a date or a time counts as a table. -/
def momentKey : String := "$__toml_private_datetime"

/-- The setting that a table of a document stands for. -/
def ofEntries? (o : Origin) (entries : List (String × Setting)) : Option Setting :=
  if (List.lookup tagKey entries).isSome then none
  else (List.lookup wrapKey entries).getD (.table o entries)

mutual

/-- What a value of a TOML document says, if it says anything. -/
def ofToml? (o : Origin) : Toml.Value → Option Setting
  | .text s => some (.scalar o (.text s))
  | .integer n => some (.scalar o (.signed n))
  | .real x => some (.scalar o (.real x))
  | .boolean b => some (.scalar o (.boolean b))
  | .moment s => some (.table o [(momentKey, .scalar o (.text s))])
  | .list items => (ofTomlItems? o items).map (.list o)
  | .table entries => (ofTomlEntries? o entries).bind (ofEntries? o)

/-- What the items of an array say. -/
def ofTomlItems? (o : Origin) : List Toml.Value → Option (List Setting)
  | [] => some []
  | v :: vs => (ofToml? o v).bind fun s => (ofTomlItems? o vs).map (s :: ·)

/-- What the entries of a table say. -/
def ofTomlEntries? (o : Origin) : List (String × Toml.Value) → Option (List (String × Setting))
  | [] => some []
  | (k, v) :: es => (ofToml? o v).bind fun s => (ofTomlEntries? o es).map ((k, s) :: ·)

end

mutual

/-- What a JSON value says. -/
def ofJson : Json → Setting
  | .null => .scalar .document .nothing
  | .boolean b => .scalar .document (.boolean b)
  | .natural n => .scalar .document (.unsigned n)
  | .negative n => .scalar .document (.signed (.negSucc n))
  | .real x => .scalar .document (.real x)
  | .text s => .scalar .document (.text s)
  | .list items => .list .document (ofJsonItems items)
  | .object fields => .table .document (ofJsonFields fields)

/-- What the items of a list say. -/
def ofJsonItems : List Json → List Setting
  | [] => []
  | j :: js => ofJson j :: ofJsonItems js

/-- What the fields of an object say. -/
def ofJsonFields : List (String × Json) → List (String × Setting)
  | [] => []
  | (k, j) :: fs => (k, ofJson j) :: ofJsonFields fs

end

end Setting

end ExitContract
