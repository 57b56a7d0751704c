import ExitContract.Binary64
import ExitContract.Keyed

/-!
# TOML documents

The values of a TOML document, and how its statements build one table.

A name may be given a value once. A header opens the table that it names: one that is not there yet,
or one that so far exists only because a longer header named something in it. A dotted key reaches
only into tables that dotted keys made, and a header does not reopen those. The last table of an array
of tables is the one that names lead into.

## Main definitions

* `Toml.Value` — the values
* `Toml.Document` — pairs and sections, as they stand in a document
* `Toml.Document.entries?` — the table that a document builds, if its statements agree
-/

namespace ExitContract

namespace Toml

/-- The values of a document. -/
inductive Value
  | text (s : String)
  | integer (n : Int)
  | real (x : Binary64)
  | boolean (b : Bool)
  /-- A date, a time, or both, as it is written. -/
  | moment (written : String)
  | list (items : List Value)
  | table (entries : List (String × Value))
  deriving Repr

/-- What a name stands for while a document is read. -/
inductive Node
  | value (v : Value)
  /-- A table: whether only longer headers or dotted keys made it, whether dotted keys did, and its
  entries. -/
  | table (implicit dotted : Bool) (entries : List (String × Node))
  /-- An array of tables. -/
  | tables (items : List Node)
  deriving Repr

namespace Node

/-- The entries of a table. -/
def entries : Node → List (String × Node)
  | .table _ _ es => es
  | _ => []

/-- A table with other entries. -/
def withEntries (n : Node) (es : List (String × Node)) : Node :=
  match n with
  | .table implicit dotted _ => .table implicit dotted es
  | n => n

/-- An empty table that a header opens. -/
def empty : Node := .table false false []

mutual

/-- The value that a node comes to. -/
def freeze : Node → Value
  | .value v => v
  | .table _ _ es => .table (freezeEntries es)
  | .tables items => .list (freezeItems items)

/-- The values of entries. -/
def freezeEntries : List (String × Node) → List (String × Value)
  | [] => []
  | (k, n) :: es => (k, freeze n) :: freezeEntries es

/-- The values of items. -/
def freezeItems : List Node → List Value
  | [] => []
  | n :: ns => freeze n :: freezeItems ns

end

/-- Gives a name a value in a table, where the way to it was a dotted key or not. -/
def putHere (n : Node) (byPath : Bool) (key : String) (v : Value) : Option Node :=
  match n with
  | .table implicit dotted es =>
    if dotted != byPath then none
    else if (List.lookup key es).isSome then none
    else some (.table implicit dotted (Keyed.insert key (.value v) es))
  | _ => none

/-- Gives a dotted key a value, seen from a table. -/
def put (key : String) (v : Value) : List String → Bool → Node → Option Node
  | [], byPath, n => n.putHere byPath key v
  | k :: ks, _, n =>
    match List.lookup k n.entries with
    | none =>
      (put key v ks true (.table true true [])).map fun c => n.withEntries (Keyed.insert k c n.entries)
    | some (.table true dotted es) =>
      (put key v ks true (.table true dotted es)).map fun c =>
        n.withEntries (Keyed.insert k c n.entries)
    | some (.tables items) =>
      match items.getLast? with
      | none => none
      | some last =>
        (put key v ks true last).map fun c =>
          n.withEntries (Keyed.insert k (.tables (items.dropLast ++ [c])) n.entries)
    | some _ => none

/-- Changes what the last name of a header stands for; tables on the way are made where there are
none. -/
def change (f : Option Node → Option Node) : List String → Node → Option Node
  | [], _ => none
  | [k], n => (f (List.lookup k n.entries)).map fun c => n.withEntries (Keyed.insert k c n.entries)
  | k :: ks, n =>
    match List.lookup k n.entries with
    | none =>
      (change f ks (.table true false [])).map fun c => n.withEntries (Keyed.insert k c n.entries)
    | some (.table implicit dotted es) =>
      (change f ks (.table implicit dotted es)).map fun c =>
        n.withEntries (Keyed.insert k c n.entries)
    | some (.tables items) =>
      match items.getLast? with
      | none => none
      | some last =>
        (change f ks last).map fun c =>
          n.withEntries (Keyed.insert k (.tables (items.dropLast ++ [c])) n.entries)
    | some (.value _) => none

end Node

/-- A key, with the names before its last one, and its value. -/
structure Pair where
  path : List String
  key : String
  value : Value
  deriving Repr

/-- Puts pairs into a table. -/
def Node.fill (n : Node) (pairs : List Pair) : Option Node :=
  pairs.foldlM (fun n p => n.put p.key p.value p.path false) n

/-- A header with the pairs that follow it. -/
structure Section where
  /-- Whether the header adds a table to an array. -/
  inArray : Bool
  path : List String
  pairs : List Pair
  deriving Repr

/-- A document: the pairs before any header, and the sections. -/
structure Document where
  pairs : List Pair
  sections : List Section
  deriving Repr

/-- What stands at the name of a section once its pairs are read. -/
def Section.place (s : Section) : Option Node → Option Node
  | none =>
    (Node.empty.fill s.pairs).map fun n => if s.inArray then .tables [n] else n
  | some (.tables items) =>
    if s.inArray then (Node.empty.fill s.pairs).map fun n => .tables (items ++ [n]) else none
  | some (.table true false es) =>
    if s.inArray then none else (Node.table false false es).fill s.pairs
  | some _ => none

/-- The entries of the table that a document builds, if its statements agree. -/
def Document.entries? (d : Document) : Option (List (String × Value)) := do
  let root ← Node.empty.fill d.pairs
  let root ← d.sections.foldlM (fun root s => root.change s.place s.path) root
  return Node.freezeEntries root.entries

/-- The table that the pairs of an inline table build, if they agree. -/
def inlineTable? (pairs : List Pair) : Option Value := (Node.empty.fill pairs).map Node.freeze

end Toml

end ExitContract
