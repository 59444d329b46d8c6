/-
This file forwards the diagnostics of a daemon line by line.
-/

import EmacsSession.Text.Blank
import EmacsSession.Text.Lines
import EmacsSession.Utf8.Decoder

namespace EmacsSession

/-- What is kept between two chunks: the decoder and the text that is not forwarded yet. -/
structure Diagnostics where
  decoder : Utf8.Decoder
  held : List Char

namespace Diagnostics

/-- The line ends in a line feed or a carriage return. -/
def isFinished (line : List Char) : Bool :=
  line.getLast? == some '\n' || line.getLast? == some '\r'

/-- The lines that can be forwarded, and the unfinished one behind them. -/
def release (text : List Char) : List (List Char) × List Char :=
  let lines := Text.lines text
  match lines.getLast? with
  | some last => if isFinished last then (lines, []) else (lines.dropLast, last)
  | none => ([], [])

/-- The message for a line. A blank line has none, and only the line end is left out. -/
def message? (line : List Char) : Option (List Char) :=
  if Text.allBlank line then none
  else some (Text.dropSuffix (fun character => character == '\r' || character == '\n') line)

/-- The messages of the lines that can be forwarded now. -/
def flush (diagnostics : Diagnostics) : List (List Char) × Diagnostics :=
  let (lines, held) := release diagnostics.held
  (lines.filterMap message?, { diagnostics with held := held })

/-- The text of a chunk is added to what is held. -/
def feed (diagnostics : Diagnostics) (chunk : List UInt8) : Diagnostics :=
  let (decoder, text) := diagnostics.decoder.feed chunk
  ⟨decoder, diagnostics.held ++ text⟩

/-- The messages of what is held and of the chunks, in order. -/
def run (diagnostics : Diagnostics) : List (List UInt8) → List (List Char) × Diagnostics
  | [] => diagnostics.flush
  | chunk :: chunks =>
      let (messages, diagnostics) := diagnostics.flush
      let (more, diagnostics) := run (diagnostics.feed chunk) chunks
      (messages ++ more, diagnostics)

/-- The message of what is held at the end. -/
def finish (diagnostics : Diagnostics) : List (List Char) :=
  (message? (diagnostics.held ++ diagnostics.decoder.finish)).toList

end Diagnostics

end EmacsSession
