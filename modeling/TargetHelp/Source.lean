import TargetHelp.Fault
import TargetHelp.Text.Line

/-!
# Sources

The lines that a parser reads, and the fault, if any, that ends them early. Bytes are decoded chunk
by chunk as they would arrive: a malformed chunk is lost as a whole, and so is the line that it
would have completed, while the complete lines before it stand.
-/

set_option autoImplicit false
set_option relaxedAutoImplicit false

namespace TargetHelp

structure Source where
  /-- How traces show the source. -/
  display : Text
  lines : List Text
  fault : Option Fault := none

namespace Source

/-- How many bytes arrive at once. -/
def chunkSize : Nat := 8192

/-- Bytes in chunks of `size`, the last one shorter if need be. -/
def chunksOf (size : Nat) (bytes : Bytes) : List Bytes :=
  if size = 0 ∨ bytes = [] then [] else bytes.take size :: chunksOf size (bytes.drop size)
termination_by bytes.length
decreasing_by
  rename_i h
  have := List.length_pos_iff.mpr fun hb => h (Or.inr hb)
  simp only [List.length_drop]
  omega

/-- The text of the chunks before the first fault, and the fault. `pending` is the beginning of a
sequence that the chunk before has left open. -/
def decodeChunks (pending : Bytes) : List Bytes → Text × Option Utf8.DecodeError
  | [] => ([], (Utf8.Ending.pending 0 pending).close)
  | chunk :: chunks =>
    let decoded := Utf8.decodeFrom 0 (pending ++ chunk)
    match decoded.ending with
    | .malformed error => ([], some error)
    | .complete =>
      let (text, error?) := decodeChunks [] chunks
      (decoded.text ++ text, error?)
    | .pending _ open_ =>
      let (text, error?) := decodeChunks open_ chunks
      (decoded.text ++ text, error?)

/-- The lines of a text that are complete whatever follows it: those that end in a line feed, a
carriage return at the very end not being a line end yet. -/
def completeLines (t : Text) : List Text :=
  let certain := if t.getLast? = some Text.carriageReturn then t.dropLast else t
  (Text.lines (Text.universalLineEnds certain)).filter fun line =>
    line.getLast? = some Text.lineFeed

/-- A source of lines that end at line feeds alone. -/
def ofText (display t : Text) : Source := { display, lines := Text.lines t }

def ofBytes (display : Text) (bytes : Bytes) : Source :=
  match decodeChunks [] (chunksOf chunkSize bytes) with
  | (t, none) => { display, lines := Text.lines (Text.universalLineEnds t) }
  | (t, some error) => { display, lines := completeLines t, fault := some (.decoding error) }

/-- The source of what has been opened, from which reading may fail. -/
def ofOpened (display : Text) (content : Except Files.Problem Bytes) : Source :=
  match content with
  | .ok bytes => ofBytes display bytes
  | .error problem => { display, lines := [], fault := some (.file problem none) }

end Source

end TargetHelp
