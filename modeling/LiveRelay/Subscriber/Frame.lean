/-
Module: LiveRelay.Subscriber.Frame
Purpose: The frames that subscribers send, and what each of them means to the relay.
Main exports: Frame, Frame.ofFirst, closeReply?, Reading, BegunMessage, Frame.reading
-/
import LiveRelay.Connection
import LiveRelay.Text.Utf8

namespace LiveRelay

open Text

/-- One frame: whether it is the last of its message, its reserved bits, its kind, whether its
payload was masked, and the payload. -/
structure Frame where
  final : Bool
  reserved : Nat
  opcode : Nat
  masked : Bool
  payload : Payload
deriving Repr, DecidableEq

namespace Frame

/-- A frame that starts with a byte: one bit for the end of the message, three that are reserved,
and four for the kind. -/
def ofFirst (first : UInt8) (masked : Bool) (payload : Payload) : Frame where
  final := 128 ≤ first
  reserved := first.toNat / 16 % 8
  opcode := first.toNat % 16
  masked := masked
  payload := payload

def text (payload : Payload) : Frame := ofFirst 0x81 true payload

def binary (payload : Payload) : Frame := ofFirst 0x82 true payload

def close (payload : Payload) : Frame := ofFirst 0x88 true payload

def ping (payload : Payload) : Frame := ofFirst 0x89 true payload

def pong (payload : Payload) : Frame := ofFirst 0x8a true payload

end Frame

/-! ### Closing -/

/-- The codes that a peer may close with. -/
def isCloseCode (code : Nat) : Bool :=
  (1000 ≤ code ∧ code ≤ 1003) ∨ (1007 ≤ code ∧ code ≤ 1013) ∨ (3000 ≤ code ∧ code ≤ 4999)

/-- The answer to a close that gives no valid code: code 1002, and why. -/
def violationReply : Payload := 0x03 :: 0xea :: utf8 "Protocol violation"

/-- How a close frame is answered: as it is, or for a code that is not valid by a violation. No
answer is given to half a code, or to a reason that is not UTF-8. -/
def closeReply? : Payload → Option Payload
  | [] => some []
  | [_] => none
  | high :: low :: reason =>
    if (textOfUtf8? reason).isNone then none
    else if isCloseCode (high.toNat * 256 + low.toNat) then some (high :: low :: reason)
    else some violationReply

/-! ### Messages of several frames -/

/-- The most bytes of one frame. -/
def mostInFrame : Nat := 16777216

/-- The most bytes of one message. -/
def mostInMessage : Nat := 67108864

/-- A message whose last frame has not arrived: whether it is a text, and what has arrived of it. -/
structure BegunMessage where
  isText : Bool
  payload : Payload
deriving Repr, DecidableEq

/-- Whether a message can be as it is when it is complete, or can have begun so before that: it is not
too long, and a text is UTF-8. A text is refused at the first frame that spoils it. -/
def BegunMessage.canStand (message : BegunMessage) (complete : Bool) : Bool :=
  message.payload.length ≤ mostInMessage ∧
    (message.isText →
      if complete then (textOfUtf8? message.payload).isSome else startsText message.payload)

/-! ### Reading -/

/-- What a frame means: nothing to the relay, a sign of life, a request for a pong, a close that is
answered, or a violation of the protocol. -/
inductive Reading where
  | ignored
  | alive
  | pinged (payload : Payload)
  | closing (reply : Payload)
  | violation
deriving Repr, DecidableEq

namespace Frame

/-- Whether the frame is one of control, which may come between the frames of a message. -/
def isControl (frame : Frame) : Bool := 8 ≤ frame.opcode

/-- What a control frame means. It is never split, and holds at most 125 bytes. -/
def readControl (frame : Frame) : Reading :=
  if frame.final = false ∨ 125 < frame.payload.length then .violation
  else
    match frame.opcode with
    | 8 =>
      match closeReply? frame.payload with
      | some reply => .closing reply
      | none => .violation
    | 9 => .pinged frame.payload
    | 10 => .alive
    | _ => .violation

/-- The message that a data frame belongs to, as far as it is there with the frame. A message is begun
where none is under way, and continued where one is. -/
def message? (frame : Frame) (underWay : Option BegunMessage) : Option BegunMessage :=
  match frame.opcode, underWay with
  | 0, some message => some { message with payload := message.payload ++ frame.payload }
  | 1, none => some ⟨true, frame.payload⟩
  | 2, none => some ⟨false, frame.payload⟩
  | _, _ => none

/-- What a data frame means, and the message that is under way after it. Data is ignored as long as
the message can stand with it. -/
def readData (frame : Frame) (underWay : Option BegunMessage) : Reading × Option BegunMessage :=
  match frame.message? underWay with
  | none => (.violation, underWay)
  | some message =>
    if message.canStand frame.final then (.ignored, if frame.final then none else some message)
    else (.violation, underWay)

/-- What a frame means, and the message that is under way after it. A control frame leaves the message
as it is. -/
def reading (frame : Frame) (underWay : Option BegunMessage) : Reading × Option BegunMessage :=
  if frame.reserved ≠ 0 ∨ frame.masked = false ∨ mostInFrame < frame.payload.length then
    (.violation, underWay)
  else if frame.isControl then (frame.readControl, underWay)
  else frame.readData underWay

end Frame

example : closeReply? [0x03, 0xe8] = some [0x03, 0xe8] := by decide +kernel
example : closeReply? [0x03, 0xec] = some violationReply := by decide +kernel
example : ((Frame.ofFirst 0x80 true [0x41]).reading none).1 = .violation := by decide +kernel
example : (Frame.ofFirst 0x01 true [0xc3]).reading none = (.ignored, some ⟨true, [0xc3]⟩) ∧
    ((Frame.ofFirst 0x80 true [0x41]).reading (some ⟨true, [0xc3]⟩)).1 = .violation ∧
    (Frame.ofFirst 0x80 true [0xa9]).reading (some ⟨true, [0xc3]⟩) = (.ignored, none) := by
  decide +kernel

end LiveRelay
