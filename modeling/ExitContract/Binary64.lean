/-!
# Binary floating point

Double-precision numbers as exact values. Every operation is the exact rational one followed by one
rounding to the nearest representable number, a tie going to the even significand.

## Main definitions

* `Binary64` — not-a-number, an infinity, or a sign with a significand and an exponent of two
* `Binary64.ofRatio`, `Binary64.ofDecimal`, `Binary64.read?` — rounding a quotient, a decimal, a text
* `Binary64.shortest` — the fewest decimal digits that read back
* `Binary64.tenths`, `Binary64.positional`, `Binary64.pointed` — the three written forms

## Design notes

The written forms differ only in how digits are laid out. `tenths` rounds the exact value to one
place; the other two lay out the shortest digits.
-/

namespace ExitContract

/-- A double-precision number. A finite one is `significand · 2 ^ exponent` with its sign, and a zero
keeps its sign. -/
inductive Binary64
  | nan
  | infinite (negative : Bool)
  | finite (negative : Bool) (significand : Nat) (exponent : Int)
  deriving DecidableEq, Repr

/-- The quotient of two numbers rounded to the nearest whole number, a tie going to the even one. -/
def roundQuotient (num den : Nat) : Nat :=
  let q := num / den
  let r := num % den
  if 2 * r < den then q
  else if den < 2 * r then q + 1
  else if q % 2 = 0 then q else q + 1

namespace Binary64

/-- The least exponent of a significand. -/
def minExponent : Int := -1074

/-- The greatest exponent of a significand. -/
def maxExponent : Int := 971

/-- The quotient `num · 2 ^ (-shift) / den`, rounded to the nearest whole number. -/
def roundScaled (num den : Nat) (shift : Int) : Nat :=
  match shift with
  | .ofNat k => roundQuotient num (den * Nat.pow 2 k)
  | .negSucc k => roundQuotient (num * Nat.pow 2 (k + 1)) den

/-- The number with a significand of at most `2 ^ 53` and an exponent that is not too small. -/
def normal (negative : Bool) (significand : Nat) (exponent : Int) : Binary64 :=
  let (significand, exponent) :=
    if significand = Nat.pow 2 53 then (Nat.pow 2 52, exponent + 1) else (significand, exponent)
  if maxExponent < exponent then .infinite negative else .finite negative significand exponent

/-- The number nearest to `num / den`. -/
def ofRatio (negative : Bool) (num den : Nat) : Binary64 :=
  if num = 0 then .finite negative 0 minExponent
  else
    let guess : Int := (num.log2 : Int) - (den.log2 : Int) - 52
    -- The significand must lie in `[2 ^ 52, 2 ^ 53)`; the guess may be one too large.
    let fits : Bool := match guess with
      | .ofNat k => den * Nat.pow 2 k * Nat.pow 2 52 ≤ num
      | .negSucc k => den * Nat.pow 2 52 ≤ num * Nat.pow 2 (k + 1)
    let exponent := max minExponent (if fits then guess else guess - 1)
    normal negative (roundScaled num den exponent) exponent

/-- The number nearest to `digits · 10 ^ exponent`. Exponents far outside the range are not worked
out. -/
def ofDecimal (negative : Bool) (digits : Nat) (exponent : Int) : Binary64 :=
  if digits = 0 then .finite negative 0 minExponent
  else
    let size : Int := ((Nat.toDigits 10 digits).length : Int) + exponent
    if 400 < size then .infinite negative
    else if size < -400 then .finite negative 0 minExponent
    else match exponent with
      | .ofNat k => ofRatio negative (digits * Nat.pow 10 k) 1
      | .negSucc k => ofRatio negative digits (Nat.pow 10 (k + 1))

/-- The number nearest to a natural number. -/
def ofNat (n : Nat) : Binary64 := ofRatio false n 1

/-- A finite number that is not negative as an exact quotient. -/
def ratio (significand : Nat) (exponent : Int) : Nat × Nat :=
  match exponent with
  | .ofNat k => (significand * Nat.pow 2 k, 1)
  | .negSucc k => (significand, Nat.pow 2 (k + 1))

/-- The sum of two numbers that are not negative. -/
def addMagnitudes : Binary64 → Binary64 → Binary64
  | .finite _ m e, .finite _ n f =>
    let (a, b) := ratio m e
    let (c, d) := ratio n f
    ofRatio false (a * d + c * b) (b * d)
  | .nan, _ => .nan
  | _, .nan => .nan
  | .infinite s, _ => .infinite s
  | _, .infinite s => .infinite s

/-! ### Reading -/

/-- The value of a run of decimal digits. -/
def digitsValue (ds : List Char) : Nat := ds.foldl (fun n c => n * 10 + (c.toNat - 48)) 0

/-- Splits off the digits at the start of a text. -/
def spanDigits (cs : List Char) : List Char × List Char :=
  (cs.takeWhile Char.isDigit, cs.dropWhile Char.isDigit)

/-- Reads an exponent part, which may be absent. -/
def readExponent? : List Char → Option Int
  | [] => some 0
  | c :: cs =>
    if c = 'e' ∨ c = 'E' then
      let (negative, ds) := match cs with
        | '-' :: ds => (true, ds)
        | '+' :: ds => (false, ds)
        | ds => (false, ds)
      if ds.isEmpty ∨ !ds.all Char.isDigit then none
      else some (if negative then -(digitsValue ds : Int) else digitsValue ds)
    else none

/-- Reads an unsigned decimal: digits, with a point somewhere, and an exponent part. -/
def readDecimal? (negative : Bool) (cs : List Char) : Option Binary64 :=
  let (whole, rest) := spanDigits cs
  let (fraction, rest) := match rest with
    | '.' :: rest => spanDigits rest
    | rest => ([], rest)
  if whole.isEmpty ∧ fraction.isEmpty then none
  else (readExponent? rest).map fun e =>
    ofDecimal negative (digitsValue (whole ++ fraction)) (e - (fraction.length : Int))

/-- Reads a number without its sign: a word for an infinity or for not-a-number in any letter case,
or a decimal. -/
def readUnsigned? (negative : Bool) (cs : List Char) : Option Binary64 :=
  let word := String.ofList (cs.map Char.toLower)
  if word = "inf" ∨ word = "infinity" then some (.infinite negative)
  else if word = "nan" then some .nan
  else readDecimal? negative cs

/-- Reads a number with an optional sign. -/
def read? (text : String) : Option Binary64 :=
  match text.toList with
  | '-' :: cs => readUnsigned? true cs
  | '+' :: cs => readUnsigned? false cs
  | cs => readUnsigned? false cs

/-! ### Shortest digits -/

/-- The number `digits · 10 ^ exponent`. -/
structure Decimal where
  digits : Nat
  exponent : Int
  deriving DecidableEq, Repr

/-- The quotient `num / den` divided by `10 ^ k`, as a quotient. -/
def scaleDown (num den : Nat) (k : Int) : Nat × Nat :=
  match k with
  | .ofNat k => (num, den * Nat.pow 10 k)
  | .negSucc k => (num * Nat.pow 10 (k + 1), den)

/-- The exponent of the first decimal digit of a positive quotient, searched upwards from a bound
that is not too large. -/
def leadingExponent (num den : Nat) : Nat → Int → Int
  | 0, k => k
  | fuel + 1, k =>
    let (a, b) := scaleDown num den (k + 1)
    if b ≤ a then leadingExponent num den fuel (k + 1) else k

/-- Removes the zeros at the end of the digits. -/
def dropZeros : Nat → Decimal → Decimal
  | 0, d => d
  | fuel + 1, d =>
    if d.digits ≠ 0 ∧ d.digits % 10 = 0 then dropZeros fuel ⟨d.digits / 10, d.exponent + 1⟩ else d

/-- Which of two neighbours a number in the middle between them goes to. -/
inductive Tie
  /-- The greater one. -/
  | up
  /-- The even one. -/
  | even
  deriving DecidableEq, Repr

/-- Whether the lesser neighbour `below` is the one to take for a number that lies `rest / scale`
above it. -/
def Tie.takesBelow (t : Tie) (below rest scale : Nat) : Bool :=
  if 2 * rest = scale then t = .even && below % 2 = 0 else 2 * rest < scale

/-- The point of the grid of step `10 ^ k` that is nearest to `value / den` among those that round to
it; `lower` and `upper` bound the numbers that do, and themselves do if `closed`. -/
def gridPoint? (tie : Tie) (lower value upper den : Nat) (closed : Bool) (k : Int) :
    Option Decimal :=
  let (num, scale) := scaleDown value den k
  let below := num / scale
  let (low, _) := scaleDown lower den k
  let (high, _) := scaleDown upper den k
  let inside (d : Nat) : Bool :=
    if closed then low ≤ d * scale && d * scale ≤ high else low < d * scale && d * scale < high
  let takeBelow := below ≠ 0 && inside below
  let takeAbove := inside (below + 1)
  if takeBelow && takeAbove then
    if tie.takesBelow below (num % scale) scale then some ⟨below, k⟩ else some ⟨below + 1, k⟩
  else if takeBelow then some ⟨below, k⟩
  else if takeAbove then some ⟨below + 1, k⟩
  else none

/-- The first grid, from coarse to fine, that has a point which rounds to the value. -/
def firstGridPoint (tie : Tie) (lower value upper den : Nat) (closed : Bool) : Nat → Int → Decimal
  | 0, k => ⟨value / den, k⟩
  | fuel + 1, k =>
    match gridPoint? tie lower value upper den closed k with
    | some d => d
    | none => firstGridPoint tie lower value upper den closed fuel (k - 1)

/-- The decimal with the fewest digits that reads back as `significand · 2 ^ exponent`, and among
those the nearest. -/
def shortest (tie : Tie) (significand : Nat) (exponent : Int) : Decimal :=
  if significand = 0 then ⟨0, 0⟩
  else
    let narrow : Bool := significand = Nat.pow 2 52 && minExponent < exponent
    let (value, den) := ratio (4 * significand) (exponent - 2)
    let (upper, _) := ratio (4 * significand + 2) (exponent - 2)
    let (lower, _) := ratio (4 * significand - (if narrow then 1 else 2)) (exponent - 2)
    let top := leadingExponent value den 700 (-330)
    dropZeros 400 (firstGridPoint tie lower value upper den (significand % 2 = 0) 18 (top + 1))

/-! ### Written forms -/

/-- The sign of a written number. -/
def sign (negative : Bool) : String := if negative then "-" else ""

/-- So many zeros. -/
def zeros (n : Nat) : List Char := List.replicate n '0'

/-- Digits with every place before the point written out, and `fraction` after it when there are
none. -/
def layOut (d : Decimal) (fraction : String) : String :=
  let ds := Nat.toDigits 10 d.digits
  match d.exponent with
  | .ofNat k => String.ofList (ds ++ zeros (if d.digits = 0 then 0 else k)) ++ fraction
  | .negSucc k =>
    let places := k + 1
    if places < ds.length then
      String.ofList (ds.take (ds.length - places) ++ '.' :: ds.drop (ds.length - places))
    else String.ofList ('0' :: '.' :: (zeros (places - ds.length) ++ ds))

/-- Exactly one place after the point, rounded from the exact value. -/
def tenths : Binary64 → String
  | .nan => "NaN"
  | .infinite negative => sign negative ++ "inf"
  | .finite negative m e =>
    let (num, den) := ratio m e
    let t := roundQuotient (10 * num) den
    sign negative ++ toString (t / 10) ++ "." ++ toString (t % 10)

/-- The shortest digits, with every place written out and no point after a whole number. Of two that
are as near, the greater one is written. -/
def positional : Binary64 → String
  | .nan => "NaN"
  | .infinite negative => sign negative ++ "inf"
  | .finite negative m e => sign negative ++ layOut (shortest .up m e) ""

/-- The shortest digits with a point: positional from `10 ^ -5` up to `10 ^ 16`, and otherwise with
an exponent and its sign. Of two that are as near, the even one is written. -/
def pointed : Binary64 → String
  | .nan => "NaN"
  | .infinite negative => sign negative ++ "inf"
  | .finite negative m e =>
    let d := shortest .even m e
    let ds := Nat.toDigits 10 d.digits
    let leading : Int := (ds.length : Int) - 1 + d.exponent
    if d.digits = 0 ∨ (-5 ≤ leading ∧ leading < 16) then
      sign negative ++ layOut d ".0"
    else
      let head := ds.take 1 ++ (if ds.length = 1 then [] else '.' :: ds.drop 1)
      sign negative ++ String.ofList head ++ "e" ++ (if leading < 0 then "-" else "+") ++
        toString leading.natAbs

end Binary64

end ExitContract