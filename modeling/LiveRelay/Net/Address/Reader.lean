/-
Module: LiveRelay.Net.Address.Reader
Purpose: Reading internet and socket addresses from text.
Main exports: IpAddress.ofString?, SocketAddress.ofString?
-/
import LiveRelay.Net.Address
import LiveRelay.Text.Decimal
import LiveRelay.Text.Reader

namespace LiveRelay.Net

open Text Reader

/-- Read decimal digits as a number up to a bound; leading zeros do not matter. -/
def readBounded (bound : Nat) : Reader Nat := do
  let digits ← takeSome Char.isDigit
  let value := Nat.ofDigitChars 10 digits 0
  if value ≤ bound then pure value else failure

/-- Read one of the four bytes: one to three decimal digits without a leading zero. -/
def readByte : Reader UInt8 := do
  let digits ← takeSome Char.isDigit
  let value := Nat.ofDigitChars 10 digits 0
  if digits.length ≤ 3 ∧ (digits.head? ≠ some '0' ∨ digits.length = 1) ∧ value ≤ 255 then
    pure (UInt8.ofNat value)
  else failure

/-- Read four bytes with a point between each two. -/
def readFourBytes : Reader (UInt8 × UInt8 × UInt8 × UInt8) := do
  let a ← readByte
  char '.'
  let b ← readByte
  char '.'
  let c ← readByte
  char '.'
  let d ← readByte
  pure (a, b, c, d)

/-- Read one group: one to four hexadecimal digits. -/
def readGroup : Reader UInt16 := do
  let digits ← takeSome fun c => (hexDigit? c).isSome
  if digits.length ≤ 4 then
    pure (UInt16.ofNat (ofDigitValues 16 (digits.filterMap hexDigit?)))
  else failure

/-- Two bytes as one group. -/
def groupOfBytes (high low : UInt8) : UInt16 := high.toUInt16 * 256 + low.toUInt16

/-- Read groups with a colon between each two, at most as many as there is room for. Where room
for two is left, four decimal bytes may stand for the last two groups; the flag says whether they
did. -/
def readGroups : (room : Nat) → (isFirst : Bool) → Reader (List UInt16 × Bool)
  | 0, _ => pure ([], false)
  | room + 1, isFirst => do
    let separator : Reader Unit := if isFirst then pure () else char ':'
    let bytes? ← maybe do
      if room = 0 then failure
      separator
      readFourBytes
    match bytes? with
    | some (a, b, c, d) => pure ([groupOfBytes a b, groupOfBytes c d], true)
    | none =>
      match ← maybe (do separator; readGroup) with
      | none => pure ([], false)
      | some group =>
        let (others, decimalEnd) ← readGroups room false
        pure (group :: others, decimalEnd)

/-- Eight groups from those in front of a double colon and those behind it; the groups between
are zero. -/
def fillGroups (front back : List UInt16) : Vector UInt16 8 :=
  Vector.ofFn fun i =>
    if i.val < front.length then front.getD i.val 0
    else if 8 - back.length ≤ i.val then back.getD (i.val - (8 - back.length)) 0
    else 0

/-- Read eight groups. Where a double colon stands it is worth one zero group or more, and decimal
bytes may stand at the very end only. -/
def readEightGroups : Reader (Vector UInt16 8) := do
  let (front, decimalEnd) ← readGroups 8 true
  if front.length = 8 then pure (fillGroups front [])
  else if decimalEnd then failure
  else
    chars [':', ':']
    let (back, _) ← readGroups (7 - front.length) true
    pure (fillGroups front back)

def readIp : Reader IpAddress :=
  (do let (a, b, c, d) ← readFourBytes; pure (.v4 a b c d)) <|>
  (do let groups ← readEightGroups; pure (.v6 groups))

/-- Read a colon and a port. -/
def readPort : Reader UInt16 := do
  char ':'
  let port ← readBounded 65535
  pure (UInt16.ofNat port)

/-- Read four bytes and a port, or eight groups in brackets, with a numeric scope or without, and
a port. No text gives flow information. -/
def readSocketAddress : Reader SocketAddress :=
  (do
    let (a, b, c, d) ← readFourBytes
    let port ← readPort
    pure (.v4 a b c d port)) <|>
  (do
    char '['
    let groups ← readEightGroups
    let scope ← maybe (do char '%'; readBounded 4294967295)
    char ']'
    let port ← readPort
    pure (.v6 groups 0 (UInt32.ofNat (scope.getD 0)) port))

/-- The internet address that a text writes. -/
def IpAddress.ofString? (text : String) : Option IpAddress := readAll? readIp text.toList

/-- The socket address that a text writes. -/
def SocketAddress.ofString? (text : String) : Option SocketAddress :=
  readAll? readSocketAddress text.toList

example : SocketAddress.ofString? "127.0.0.1:00080" = some (.v4 127 0 0 1 80) := by decide +kernel
example : SocketAddress.ofString? "127.0.0.01:80" = none := by decide +kernel
example : SocketAddress.ofString? "[::1%07]:1" =
    some (.v6 #v[0, 0, 0, 0, 0, 0, 0, 1] 0 7 1) := by decide +kernel
example : SocketAddress.ofString? "[::1.2.3.4]:65536" = none := by decide +kernel

end LiveRelay.Net
