/-
Module: LiveRelay.Net.Address.Writer
Purpose: Writing internet and socket addresses in their canonical form.
Main exports: IpAddress.toText, SocketAddress.toText
-/
import LiveRelay.Net.Address
import LiveRelay.Text.Decimal

namespace LiveRelay.Net

open Text

/-- Four bytes in decimal with points between them. -/
def fourBytesText (a b c d : UInt8) : List Char :=
  decimal a.toNat ++ '.' :: decimal b.toNat ++ '.' :: decimal c.toNat ++ '.' :: decimal d.toNat

/-- A group in lower-case hexadecimal without leading zeros. -/
def groupText (group : UInt16) : List Char := Nat.toDigits 16 group.toNat

/-- Groups with a colon between each two. -/
def groupsText : List UInt16 → List Char
  | [] => []
  | [group] => groupText group
  | group :: others => groupText group ++ ':' :: groupsText others

/-- How many zero groups a list starts with. -/
def zeroRun (groups : List UInt16) : Nat := (groups.takeWhile (· == 0)).length

/-- Where the longest run of zero groups starts and how long it is; of equal runs, the first. -/
def longestZeroRun (groups : List UInt16) : Nat × Nat :=
  ((List.range groups.length).map fun start => (start, zeroRun (groups.drop start))).foldl
    (fun best run => if best.2 < run.2 then run else best) (0, 0)

/-- Eight groups with the longest run of two zero groups or more written as a double colon. A
mapped address shows its last four bytes in decimal. -/
def eightGroupsText (groups : Vector UInt16 8) : List Char :=
  match groups.toList with
  | [0, 0, 0, 0, 0, 0xffff, high, low] =>
    "::ffff:".toList ++ fourBytesText (high / 256).toUInt8 high.toUInt8 (low / 256).toUInt8
      low.toUInt8
  | groups =>
    let (start, length) := longestZeroRun groups
    if 1 < length then
      groupsText (groups.take start) ++ ':' :: ':' :: groupsText (groups.drop (start + length))
    else groupsText groups

/-- The canonical text of an internet address. -/
def IpAddress.toText : IpAddress → String
  | .v4 a b c d => String.ofList (fourBytesText a b c d)
  | .v6 groups => String.ofList (eightGroupsText groups)

/-- The canonical text of a socket address. A scope of zero is not written, nor is flow information. -/
def SocketAddress.toText : SocketAddress → String
  | .v4 a b c d port => String.ofList (fourBytesText a b c d ++ ':' :: decimal port.toNat)
  | .v6 groups _ scope port =>
    let scopeText := if scope = 0 then [] else '%' :: decimal scope.toNat
    String.ofList ('[' :: eightGroupsText groups ++ scopeText ++ ']' :: ':' :: decimal port.toNat)

example : (IpAddress.v6 #v[0x2001, 0xdb8, 0, 0, 1, 0, 0, 1]).toText = "2001:db8::1:0:0:1" := by
  decide
example : (SocketAddress.v6 #v[0, 0, 0, 0, 0, 0xffff, 0x102, 0x304] 5 0 80).toText =
    "[::ffff:1.2.3.4]:80" := by decide
example : (SocketAddress.v6 #v[0, 0, 0, 0, 0, 0, 0, 0] 0 3 0).toText = "[::%3]:0" := by decide

end LiveRelay.Net
