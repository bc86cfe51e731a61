/-
Module: LiveRelay.Ingest.Body
Purpose: The body of a push request: what arrives of it, frame by frame, and how frames are found
  in a body that is written in chunks or has a length given beforehand.
Main exports: BodyEvent, ChunkReader, readChunks, Framing, Framing.sent, Framing.closed
-/
import LiveRelay.Connection
import LiveRelay.Text.Decimal

namespace LiveRelay

open Text

/-- What arrives of a body: data, its end, or the news that it is broken off or malformed. -/
inductive BodyEvent where
  | frame (data : Payload)
  | ended
  | broken
deriving Repr, DecidableEq

/-! ### Chunks -/

/-- What is read next in a body written in chunks: a size, what may follow it on its line, data and
the line end behind it, or, after a chunk of no size, header fields up to an empty line. -/
inductive ChunkReader where
  | sizeStart
  | size (total : Nat)
  | afterSize (total : Nat)
  | comment (total : Nat)
  | sizeLineFeed (total : Nat)
  | data (left : Nat)
  | dataReturn
  | dataLineFeed
  | fieldStart
  | fieldName
  | fieldValue
  | fieldLineFeed
  | lastLineFeed
  | finished
  | malformed
deriving Repr, DecidableEq

namespace ChunkReader

/-- A carriage return and a line feed end a line. -/
def carriageReturn : UInt8 := 13

def lineFeedByte : UInt8 := 10

/-- Blanks may follow a size. -/
def isBlankByte (byte : UInt8) : Bool := byte = 32 ∨ byte = 9

/-- A size ends with blanks, with a comment behind a semicolon, or with its line. -/
def endSize (total : Nat) (byte : UInt8) : ChunkReader :=
  if isBlankByte byte then afterSize total
  else if byte = 59 then comment total
  else if byte = carriageReturn then sizeLineFeed total
  else malformed

/-- Take one hexadecimal digit of a size. A size has at most 64 bits. -/
def takeDigit (total : Nat) (digit : Nat) : ChunkReader :=
  if total * 16 + digit < UInt64.size then size (total * 16 + digit) else malformed

/-- Whether a byte may stand in the name of a header field. -/
def isNameByte (byte : UInt8) : Bool :=
  (Char.ofNat byte.toNat).isAlphanum ∨ byte ∈ "!#$%&'*+-.^_\x60|~".toUTF8.toList

/-- Whether a byte may stand in the value of a header field: any but a control character. -/
def isValueByte (byte : UInt8) : Bool := byte = 9 ∨ (32 ≤ byte ∧ byte ≠ 127)

/-- Read one byte. -/
def step : ChunkReader → UInt8 → ChunkReader
  | sizeStart, byte =>
    match hexDigit? (Char.ofNat byte.toNat) with
    | some digit => takeDigit 0 digit
    | none => malformed
  | size total, byte =>
    match hexDigit? (Char.ofNat byte.toNat) with
    | some digit => takeDigit total digit
    | none => endSize total byte
  | afterSize total, byte => endSize total byte
  | comment total, byte =>
    if byte = carriageReturn then sizeLineFeed total
    else if byte = lineFeedByte then malformed
    else comment total
  | sizeLineFeed 0, byte => if byte = lineFeedByte then fieldStart else malformed
  | sizeLineFeed (left + 1), byte => if byte = lineFeedByte then data (left + 1) else malformed
  | data (left + 2), _ => data (left + 1)
  | data _, _ => dataReturn
  | dataReturn, byte => if byte = carriageReturn then dataLineFeed else malformed
  | dataLineFeed, byte => if byte = lineFeedByte then sizeStart else malformed
  | fieldStart, byte =>
    if byte = carriageReturn then lastLineFeed
    else if isNameByte byte then fieldName
    else malformed
  | fieldName, byte =>
    if byte = 58 then fieldValue else if isNameByte byte then fieldName else malformed
  | fieldValue, byte =>
    if byte = carriageReturn then fieldLineFeed
    else if isValueByte byte then fieldValue
    else malformed
  | fieldLineFeed, byte => if byte = lineFeedByte then fieldStart else malformed
  | lastLineFeed, byte => if byte = lineFeedByte then finished else malformed
  | finished, _ => finished
  | malformed, _ => malformed

/-- Whether the next byte is data. -/
def takesData : ChunkReader → Bool
  | data _ => true
  | _ => false

end ChunkReader

/-- Make a frame of data, if there is any. -/
def frameOf (data : Payload) : List BodyEvent := if data = [] then [] else [.frame data]

/-- Read bytes that arrive together and after which nothing comes. The data of each chunk is one
frame; what is there of a chunk that breaks off is one too. -/
def readChunks (reader : ChunkReader) (data : Payload) : List UInt8 → List BodyEvent
  | [] => frameOf data ++ [if reader = .finished then .ended else .broken]
  | byte :: rest =>
    if reader = .finished then frameOf data ++ [.ended]
    else if reader = .malformed then frameOf data ++ [.broken]
    else if reader.takesData then readChunks (reader.step byte) (data ++ [byte]) rest
    else frameOf data ++ readChunks (reader.step byte) [] rest

example : readChunks .sizeStart [] ("3;x=1\r\nabc\r\n0\r\n\r\n".toUTF8.toList) =
    [.frame [97, 98, 99], .ended] := by decide +kernel
example : readChunks .sizeStart [] ("5\r\nab".toUTF8.toList) = [.frame [97, 98], .broken] := by
  decide +kernel
example : readChunks .sizeStart [] ("0\r\nA: b\r\n\r\n".toUTF8.toList) = [.ended] := by
  decide +kernel
example : readChunks .sizeStart [] ("0\r\nA : b\r\n\r\n".toUTF8.toList) = [.broken] := by
  decide +kernel
example : readChunks .sizeStart [] ("-1\r\n".toUTF8.toList) = [.broken] := by decide +kernel

/-! ### Framing -/

/-- How a body is framed: chunk by chunk, or with so many bytes still to come. -/
inductive Framing where
  | chunked
  | sized (left : Nat)
deriving Repr, DecidableEq, Inhabited

namespace Framing

/-- Whether the body is complete before anything is sent. -/
def isComplete (framing : Framing) : Bool := framing = .sized 0

/-- What arrives when the source sends one piece of data, and what is to come then. Of a body with
a length, what goes beyond it is no part of it. -/
def sent (data : Payload) : Framing → List BodyEvent × Framing
  | .chunked => (frameOf data, .chunked)
  | .sized left =>
    let rest := left - data.length
    (frameOf (data.take left) ++ (if rest = 0 then [.ended] else []), .sized rest)

/-- What arrives when the source says that the body is complete. -/
def closed : Framing → BodyEvent
  | .chunked => .ended
  | .sized _ => .broken

/-- What arrives when the source writes bytes as they are and nothing after them. -/
def raw (bytes : Payload) : Framing → List BodyEvent
  | .chunked => readChunks .sizeStart [] bytes
  | .sized left => (sent bytes (.sized left)).1 ++ [.broken]

end Framing

end LiveRelay
