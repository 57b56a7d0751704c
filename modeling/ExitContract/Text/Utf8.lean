/-!
# UTF-8

Reading and writing text as octets.

A run of octets is read in one pass by a machine that remembers how much of a multi-octet form is
still owed. Each octet either continues the form, or closes it: a form that cannot go on is given up
as **one** malformed piece, and the octet that stopped it is read afresh. So a malformed piece is
always a maximal one, and an ASCII octet stands for itself wherever it occurs.

## Main definitions

* `Utf8.pieces` — the characters and malformed pieces of a run of octets
* `Utf8.decodeLossy` — every malformed piece read as U+FFFD
* `Utf8.decode?` — the text, if nothing is malformed
* `Utf8.encode` — the octets of a text
-/

namespace ExitContract

/-- A run of octets: what a file holds or a program writes. -/
abbrev Bytes := List UInt8

namespace Utf8

/-- One unit of a run of octets: a character, or a maximal run that no character starts with. -/
inductive Piece
  | scalar (c : Char)
  | malformed
  deriving DecidableEq, Repr

/-- Where a reader stands between two octets. -/
inductive State
  /-- Between characters. -/
  | start
  /-- Inside a form: the bits read so far, the octets owed after the next one, and the least and the
  greatest value that the next one may have. -/
  | inside (bits owed : Nat) (low high : UInt8)
  deriving DecidableEq, Repr

/-- Reads an octet between characters. -/
def opening (b : UInt8) : List Piece × State :=
  if b < 0x80 then ([.scalar (Char.ofNat b.toNat)], .start)
  else if b < 0xC2 then ([.malformed], .start)
  else if b < 0xE0 then ([], .inside (b.toNat - 0xC0) 0 0x80 0xBF)
  else if b = 0xE0 then ([], .inside 0 1 0xA0 0xBF)
  else if b = 0xED then ([], .inside 0xD 1 0x80 0x9F)
  else if b < 0xF0 then ([], .inside (b.toNat - 0xE0) 1 0x80 0xBF)
  else if b = 0xF0 then ([], .inside 0 2 0x90 0xBF)
  else if b < 0xF4 then ([], .inside (b.toNat - 0xF0) 2 0x80 0xBF)
  else if b = 0xF4 then ([], .inside 4 2 0x80 0x8F)
  else ([.malformed], .start)

/-- Reads one octet: the pieces that it completes, and where the reader stands after it. -/
def step : State → UInt8 → List Piece × State
  | .start, b => opening b
  | .inside bits owed low high, b =>
    if low ≤ b ∧ b ≤ high then
      let bits := bits * 64 + (b.toNat - 0x80)
      match owed with
      | 0 => ([.scalar (Char.ofNat bits)], .start)
      | owed + 1 => ([], .inside bits owed 0x80 0xBF)
    else
      (.malformed :: (opening b).1, (opening b).2)

/-- The pieces of a run of octets, read from a given state. A form still open at the end is
malformed. -/
def piecesFrom : State → Bytes → List Piece
  | .start, [] => []
  | .inside .., [] => [.malformed]
  | s, b :: bs => (step s b).1 ++ piecesFrom (step s b).2 bs

/-- The characters and malformed pieces of a run of octets. -/
def pieces (bs : Bytes) : List Piece := piecesFrom .start bs

/-- The character that stands for a piece in lossy text: U+FFFD for a malformed one. -/
def Piece.lossy : Piece → Char
  | .scalar c => c
  | .malformed => '\uFFFD'

/-- The character of a piece, if it is one. -/
def Piece.scalar? : Piece → Option Char
  | .scalar c => some c
  | .malformed => none

/-- The text of a run of octets, with U+FFFD for each malformed piece, as characters. -/
def decodeLossyChars (bs : Bytes) : List Char := (pieces bs).map Piece.lossy

/-- The text of a run of octets, with U+FFFD for each malformed piece. -/
def decodeLossy (bs : Bytes) : String := String.ofList (decodeLossyChars bs)

/-- The text of a run of octets, if it is well formed, as characters. -/
def decodeChars? (bs : Bytes) : Option (List Char) := (pieces bs).mapM Piece.scalar?

/-- The text of a run of octets, if it is well formed. -/
def decode? (bs : Bytes) : Option String := (decodeChars? bs).map String.ofList

/-- The octets of a list of characters. -/
def encodeChars (cs : List Char) : Bytes := cs.flatMap String.utf8EncodeChar

/-- The octets of a text. -/
def encode (s : String) : Bytes := encodeChars s.toList

end Utf8

end ExitContract
