import ExitContract.CommandLine.Parser
import ExitContract.Config.Model
import ExitContract.Config.Value
import ExitContract.Text.Visible

/-!
# Checking settings

From settings of unknown shape to a configuration, or to the first setting that makes no sense.

A structure is a table of its fields, in which unknown ones do not matter and missing ones keep the
value that each has by itself, or a list of its fields in their order. The fields of a table are
checked in the order of their keys.

## Main definitions

* `Mismatch` — a setting that makes no sense: where it stands, where it comes from, what is wrong
* `Dialect` — the two ways of reading and of wording
* `Config.decode` — the check
-/

namespace ExitContract

/-- What stands where something else should. -/
inductive Found
  | scalar (s : Scalar)
  | list
  | table
  deriving DecidableEq, Repr

/-- What is wrong with a setting. -/
inductive Problem
  /-- It is of another kind than expected. -/
  | wrongType (found : Found) (expected : String)
  /-- It is of the right kind, but no such value is expected. -/
  | wrongValue (found : Found) (expected : String)
  /-- It is none of a set of names. -/
  | unknownVariant (name : String)
  /-- It is a list with items that nothing is expected of. -/
  | wrongLength (count : Nat)
  deriving DecidableEq, Repr

/-- A setting that makes no sense. -/
structure Mismatch where
  /-- The keys that lead to it, the outermost first. -/
  path : List String
  origin : Origin
  problem : Problem
  deriving DecidableEq, Repr

/-- The two ways of reading and of wording. -/
inductive Dialect
  /-- Settings of several sources on top of each other. -/
  | layered
  /-- One document. -/
  | document
  deriving DecidableEq, Repr

/-- What a setting is, for a message. -/
def Setting.found : Setting → Found
  | .scalar _ s => .scalar s
  | .list _ _ => .list
  | .table _ _ => .table

/-- A mismatch right at a setting. -/
def Setting.mismatch (v : Setting) (p : Problem) : Mismatch := ⟨[], v.origin, p⟩

/-- A setting of another kind than expected. -/
def Setting.wrongType {α : Type} (v : Setting) (expected : String) : Except Mismatch α :=
  .error (v.mismatch (.wrongType v.found expected))

/-- A setting with a value that is not expected. -/
def Setting.wrongValue {α : Type} (v : Setting) (expected : String) : Except Mismatch α :=
  .error (v.mismatch (.wrongValue v.found expected))

/-- A mismatch below a key. -/
def Mismatch.below (key : String) (m : Mismatch) : Mismatch := { m with path := key :: m.path }

namespace Decode

/-- A whole number of unsigned 64 bits. -/
def seconds (v : Setting) : Except Mismatch UInt64 :=
  match v with
  | .scalar _ (.unsigned n) =>
    if n ≤ CommandLine.maxUInt64 then .ok (UInt64.ofNat n) else v.wrongValue "u64"
  | .scalar _ (.signed n) => if 0 ≤ n then .ok (UInt64.ofNat n.toNat) else v.wrongValue "u64"
  | v => v.wrongType "u64"

/-- A whole number of signed 32 bits. -/
def code (v : Setting) : Except Mismatch Int32 :=
  let check (n : Int) : Except Mismatch Int32 :=
    if -(CommandLine.maxInt32 : Int) - 1 ≤ n ∧ n ≤ CommandLine.maxInt32 then .ok (Int32.ofInt n)
    else v.wrongValue "i32"
  match v with
  | .scalar _ (.unsigned n) => check n
  | .scalar _ (.signed n) => check n
  | v => v.wrongType "i32"

/-- A truth value. -/
def boolean (v : Setting) : Except Mismatch Bool :=
  match v with
  | .scalar _ (.boolean b) => .ok b
  | v => v.wrongType "a boolean"

/-- A text. -/
def text (v : Setting) : Except Mismatch String :=
  match v with
  | .scalar _ (.text s) => .ok s
  | .scalar _ (.character c) => .ok (String.singleton c)
  | v => v.wrongType "a string"

/-- The log format with a name. -/
def formatNamed (v : Setting) (name : String) : Except Mismatch LogFormat :=
  if name = "compact" then .ok .compact
  else if name = "json" then .ok .json
  else .error (v.mismatch (.unknownVariant name))

/-- Nothing, where nothing else may stand. -/
def nothing (v : Setting) : Except Mismatch Unit :=
  match v with
  | .scalar _ .nothing => .ok ()
  | v => v.wrongType "unit"

/-- The log format that a table with its name as a key stands for. -/
def formatOfEntry (key : String) (inner : Setting) : Except Mismatch LogFormat :=
  ((formatNamed inner key).bind fun f => (nothing inner).map fun _ => f).mapError (·.below key)

/-- A log format: its name, or a table with its name as the key of nothing. A single character is no
name. -/
def format (d : Dialect) (v : Setting) : Except Mismatch LogFormat :=
  match d, v with
  | _, .scalar _ (.text s) => formatNamed v s
  | .layered, .table _ ((key, inner) :: _) => formatOfEntry key inner
  | .layered, v@(.table _ []) => v.wrongType "enum"
  | .layered, v => v.wrongType "enum LogFormat"
  | .document, .table _ [(key, inner)] => formatOfEntry key inner
  | .document, .table _ _ => v.wrongValue "map with a single key"
  | .document, v => v.wrongType "string or map"

/-- A field of a structure: its key, and how a setting changes it. -/
structure Field (σ : Type) where
  key : String
  change : σ → Setting → Except Mismatch σ

/-- A field that a decoder reads. -/
def Field.of {σ α : Type} (key : String) (decode : Setting → Except Mismatch α) (set : σ → α → σ) :
    Field σ :=
  ⟨key, fun s v => (decode v).map (set s)⟩

/-- Changes the fields that the entries of a table name. -/
def entries {σ : Type} (fields : List (Field σ)) (s : σ) :
    List (String × Setting) → Except Mismatch σ
  | [] => .ok s
  | (key, v) :: rest =>
    match fields.find? (fun f => f.key == key) with
    | none => entries fields s rest
    | some f =>
      match f.change s v with
      | .error m => .error (m.below key)
      | .ok s => entries fields s rest

/-- Changes the fields in their order, as long as there are items; `index` counts them. -/
def items {σ : Type} (index : Nat) (s : σ) : List (Field σ) → List Setting → Except Mismatch σ
  | f :: fields, v :: vs =>
    match f.change s v with
    | .error m => .error (m.below (toString index))
    | .ok s => items (index + 1) s fields vs
  | _, _ => .ok s

/-- A structure: a table or a list of its fields. -/
def record {σ : Type} (d : Dialect) (name : String) (fields : List (Field σ)) (default : σ)
    (v : Setting) : Except Mismatch σ :=
  match v with
  | .table _ es => entries fields default es
  | .list _ vs =>
    match items 0 default fields vs with
    | .error m => .error m
    | .ok s =>
      if d = .document ∧ fields.length < vs.length then
        .error (v.mismatch (.wrongLength vs.length))
      else .ok s
  | v => v.wrongType ("struct " ++ name)

/-- The fields of the settings that every run starts from. -/
def defaultsFields : List (Field Defaults) :=
  [.of "timeout" seconds fun s x => { s with timeout := x },
    .of "expected_exit_code" code fun s x => { s with expectedCode := x },
    .of "check_exit_code" boolean fun s x => { s with checkCode := x },
    .of "error_message" text fun s x => { s with errorMessage := x },
    .of "kill_exit_code" code fun s x => { s with killCode := x },
    .of "fail_on_timeout" boolean fun s x => { s with failOnTimeout := x }]

/-- The fields of the settings for the log. -/
def loggingFields (d : Dialect) : List (Field LogSettings) :=
  [.of "level" text fun s x => { s with level := x },
    .of "format" (format d) fun s x => { s with format := x }]

/-- The fields of a configuration. -/
def configFields (d : Dialect) : List (Field Config) :=
  [.of "defaults" (record d "Defaults" defaultsFields .missing) fun s x => { s with defaults := x },
    .of "logging" (record d "LoggingConfig" (loggingFields d) .missing) fun s x =>
      { s with logging := x }]

end Decode

/-- The configuration that settings amount to, where what they leave out keeps its built-in value. -/
def Config.decode (d : Dialect) (v : Setting) : Except Mismatch Config :=
  Decode.record d "Config" (Decode.configFields d) .default v

/-! ### Wording -/

/-- What stands in the place of something else, in the wording for layered settings. -/
def Found.layered : Found → String
  | .scalar (.text s) => "string " ++ Quoted.render s
  | .scalar (.character c) => "string " ++ Quoted.render (String.singleton c)
  | .scalar (.boolean b) => "bool " ++ (if b then "true" else "false")
  | .scalar (.signed n) => "signed int `" ++ toString n ++ "`"
  | .scalar (.unsigned n) => "unsigned int `" ++ toString n ++ "`"
  | .scalar (.real x) => "float `" ++ x.positional ++ "`"
  | .scalar .nothing => "unit"
  | .list => "sequence"
  | .table => "map"

/-- What stands in the place of something else, in the wording for a document. -/
def Found.document : Found → String
  | .scalar (.text s) => "string " ++ Quoted.render s
  | .scalar (.character c) => "string " ++ Quoted.render (String.singleton c)
  | .scalar (.boolean b) => "boolean `" ++ (if b then "true" else "false") ++ "`"
  | .scalar (.signed n) => "integer `" ++ toString n ++ "`"
  | .scalar (.unsigned n) => "integer `" ++ toString n ++ "`"
  | .scalar (.real x) => "floating point `" ++ x.pointed ++ "`"
  | .scalar .nothing => "null"
  | .list => "sequence"
  | .table => "map"

/-- The names of the log formats, for a message. -/
def formatNames : String := "`compact` or `json`"

/-- What is wrong, in the wording for layered settings. -/
def Problem.layered : Problem → String
  | .wrongType found expected => "invalid type: found " ++ found.layered ++ ", expected " ++ expected
  | .wrongValue found expected => "invalid value " ++ found.layered ++ ", expected " ++ expected
  | .unknownVariant name =>
    "unknown variant: found `" ++ name ++ "`, expected `" ++ formatNames ++ "`"
  | .wrongLength n => "invalid length " ++ toString n ++ ", expected fewer elements in array"

/-- What is wrong, in the wording for a document. -/
def Problem.document : Problem → String
  | .wrongType found expected => "invalid type: " ++ found.document ++ ", expected " ++ expected
  | .wrongValue found expected => "invalid value: " ++ found.document ++ ", expected " ++ expected
  | .unknownVariant name => "unknown variant `" ++ name ++ "`, expected " ++ formatNames
  | .wrongLength n => "invalid length " ++ toString n ++ ", expected fewer elements in array"

/-- The way to a setting, as its source would spell it. -/
def Origin.spell (o : Origin) (path : List String) : String :=
  match o with
  | .environment => ".".intercalate (path.map fun k => String.ofList (k.toList.map Char.toUpper))
  | _ => ".".intercalate ("default" :: path)

/-- The name of a source. -/
def Origin.name : Origin → String
  | .builtIn => "built-in settings"
  | .file shown => shown ++ " TOML file"
  | .environment => "`PROCWRAP_` environment variable(s)"
  | .document => "document"

/-- A setting that makes no sense, in the wording for layered settings. -/
def Mismatch.layered (m : Mismatch) : String :=
  m.problem.layered ++
    (if m.path.isEmpty then "" else " for key " ++ Quoted.render (m.origin.spell m.path)) ++
    " in " ++ m.origin.name

/-- A setting that makes no sense, in the wording for a document. -/
def Mismatch.document (m : Mismatch) : String := m.problem.document

/-- The configuration that a document describes. -/
def Config.ofJson (j : Json) : Except Mismatch Config := Config.decode .document (.ofJson j)

end ExitContract
