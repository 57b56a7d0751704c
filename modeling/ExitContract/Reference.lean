import ExitContract.Text.Letter
import ExitContract.World

/-!
# References to files

A reference names a file with variables and a tilde in it, which stand for values of the
surroundings.

A dollar sign starts a variable: its name follows bare, as letters, numbers and underscores, or in
braces, where `:-` after the name starts a value to use when it is not set. Two dollar signs stand
for one, and a dollar sign that starts nothing stands for itself. A tilde that is the first step of
the reference stands for the directory of the user, if there is one; one that came out of a variable
does not.

## Main definitions

* `UnsetVariable` — why a reference cannot be expanded
* `World.expandReference` — the file that a reference names
-/

namespace ExitContract

/-- A variable that a reference needs and that is not set. -/
structure UnsetVariable where
  name : String
  deriving DecidableEq, Repr

/-- The wording of an unset variable. -/
def UnsetVariable.message (u : UnsetVariable) : String :=
  "error looking key '" ++ u.name ++ "' up: environment variable not found"

namespace Reference

/-- The characters of a bare variable name. -/
def isNameChar (c : Char) : Bool := c == '_' || isLetterOrNumber c

/-- What stands before the first closing brace, and what after it. -/
def splitBrace? : List Char → Option (List Char × List Char)
  | [] => none
  | c :: cs =>
    if c = '}' then some ([], cs) else (splitBrace? cs).map fun (a, b) => (c :: a, b)

/-- What stands before the first `:-`, and what after it. -/
def splitDefault? : List Char → Option (List Char × List Char)
  | ':' :: '-' :: cs => some ([], cs)
  | [] => none
  | c :: cs => (splitDefault? cs).map fun (a, b) => (c :: a, b)

/-- The value of a variable, or what to use without one. -/
def value (env : Environment) (name : List Char) (default : Option (List Char)) :
    Except UnsetVariable (List Char) :=
  match env.get? (String.ofList name), default with
  | some v, _ => .ok v.toList
  | none, some d => .ok d
  | none, none => .error ⟨String.ofList name⟩

/-- The value of what stands in braces. A name comes first: `:-` at the very start belongs to it. -/
def bracedValue (env : Environment) (inside : List Char) : Except UnsetVariable (List Char) :=
  match splitDefault? inside with
  | some (c :: name, default) => value env (c :: name) (some default)
  | _ => value env inside none

theorem length_of_splitBrace? {cs a b : List Char} (h : splitBrace? cs = some (a, b)) :
    b.length < cs.length := by
  induction cs generalizing a b with
  | nil => simp [splitBrace?] at h
  | cons c cs ih =>
    simp only [splitBrace?] at h
    split at h
    · cases h; simp
    · obtain ⟨⟨a', b'⟩, h', h''⟩ := Option.map_eq_some_iff.1 h
      cases h''
      have := ih h'
      simp; omega

/-- Replaces the variables of a reference. -/
def expandVariables (env : Environment) (cs : List Char) : Except UnsetVariable (List Char) :=
  match cs with
  | [] => .ok []
  | '$' :: '{' :: rest =>
    match h : splitBrace? rest with
    | none => (expandVariables env rest).map fun r => '$' :: '{' :: r
    | some (inside, after) =>
      match bracedValue env inside with
      | .error e => .error e
      | .ok v =>
        have := length_of_splitBrace? h
        (expandVariables env after).map fun r => v ++ r
  | '$' :: '$' :: rest => (expandVariables env rest).map fun r => '$' :: r
  | '$' :: c :: rest =>
    if isNameChar c then
      match value env (c :: rest.takeWhile isNameChar) none with
      | .error e => .error e
      | .ok v =>
        have := (List.dropWhile_sublist (p := isNameChar) (l := rest)).length_le
        (expandVariables env (rest.dropWhile isNameChar)).map fun r => v ++ r
    else (expandVariables env (c :: rest)).map fun r => '$' :: r
  | c :: rest => (expandVariables env rest).map fun r => c :: r
termination_by cs.length
decreasing_by all_goals simp_all; try omega

/-- Replaces a tilde that is the first step of a path. -/
def expandTilde (home : List Char) : List Char → List Char
  | ['~'] => home
  | '~' :: '/' :: rest => home ++ '/' :: rest
  | cs => cs

end Reference

/-- The file that a reference names. -/
def World.expandReference (w : World) (raw : String) : Except UnsetVariable String :=
  (Reference.expandVariables w.environment raw.toList).map fun cs =>
    String.ofList
      (match w.home with
        | some home => if raw.toList.head? = some '~' then Reference.expandTilde home.toList cs else cs
        | none => cs)

end ExitContract
