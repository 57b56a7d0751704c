import ExitContract.Text.Utf8

/-!
# Lines of an output

How the octets that a child writes are cut into lines.

A line ends after a line feed. The line feed is not part of its text, nor is one carriage return before
it. Octets after the last line feed are a line as well, if there are any.

## Main definitions

* `LineStream.cutLines` — the complete lines, and what follows them
* `LineStream.lineText` — the text of a line
* `LineStream.linesOf` — the texts of all lines
-/

namespace ExitContract

namespace LineStream

/-- The octet that ends a line. -/
def lineFeed : UInt8 := 10

/-- The octet that may stand before the end of a line. -/
def carriageReturn : UInt8 := 13

/-- The complete lines with their ends, and what follows them; `held` are the octets before, the last
one first, that are still without an end. -/
def cutLines (held : Bytes) : Bytes → List Bytes × Bytes
  | [] => ([], held.reverse)
  | b :: bs =>
    if b = lineFeed then
      let (lines, rest) := cutLines [] bs
      ((b :: held).reverse :: lines, rest)
    else cutLines (b :: held) bs

/-- A line without one octet at its end, if it ends with it. -/
def dropLast? (b : UInt8) (line : Bytes) : Bytes :=
  if line.getLast? = some b then line.dropLast else line

/-- A line without its end. -/
def trimEnd (line : Bytes) : Bytes := dropLast? carriageReturn (dropLast? lineFeed line)

/-- The text of a line. -/
def lineText (line : Bytes) : String := Utf8.decodeLossy (trimEnd line)

/-- What is left at the end of an output is a line, if it is anything. -/
def lastLine (rest : Bytes) : List Bytes := if rest.isEmpty then [] else [rest]

/-- The texts of the lines of an output. -/
def linesOf (output : Bytes) : List String :=
  let (lines, rest) := cutLines [] output
  (lines ++ lastLine rest).map lineText

end LineStream

end ExitContract
