/-
Module: LiveRelay.Net.Host
Purpose: What a machine allows a program on it to do with addresses: where it may listen, and whether
  anybody reaches it there. Nothing is assumed of the answers of a machine in general; those of two
  machines on which nobody else listens are described.
Main exports: Host, SocketAddress.clashesWith, Host.alone, Host.linked, Host.unlinked
-/
import LiveRelay.Net.Address

namespace LiveRelay.Net

namespace IpAddress

/-- The address that stands for every address of the machine in both families, `::`. -/
def everywhere : IpAddress := .v6 (Vector.replicate 8 0)

/-- The address of the first family that an address of the second carries, if it does. -/
def unwrapped : IpAddress → IpAddress
  | .v4 a b c d => .v4 a b c d
  | .v6 groups =>
    match groups.toList with
    | [0, 0, 0, 0, 0, 0xffff, high, low] =>
      .v4 (high / 256).toUInt8 high.toUInt8 (low / 256).toUInt8 low.toUInt8
    | _ => .v6 groups

/-- Whether the address belongs to the first family or carries one of it. -/
def isFirstFamily (ip : IpAddress) : Bool :=
  match ip.unwrapped with
  | .v4 _ _ _ _ => true
  | .v6 _ => false

/-- Whether what arrives at one address arrives at the other as well. -/
def overlaps (one other : IpAddress) : Bool :=
  one.unwrapped = other.unwrapped ∨ one = everywhere ∨ other = everywhere ∨
    (one.unwrapped = unspecified ∧ other.isFirstFamily) ∨
    (other.unwrapped = unspecified ∧ one.isFirstFamily)

end IpAddress

/-- Whether two listeners cannot be there together. With port zero each gets a port of its own. -/
def SocketAddress.clashesWith (one other : SocketAddress) : Bool :=
  one.port ≠ 0 ∧ one.port = other.port ∧ one.ip.overlaps other.ip

/-- What a machine allows: whether a program that listens at some addresses, in the order in which it
began to, may listen at another one as well, and whether connections reach it. Who else listens there,
and what the machine makes of two addresses on one port, is part of its answers. -/
structure Host where
  permits : List SocketAddress → SocketAddress → Bool
  reachable : Bool

namespace Host

/-- A machine on which nobody else listens, with addresses of its own. It refuses the ports below 1024
or does not, and refuses what clashes with an address taken before. -/
def alone (owns : IpAddress → Bool) (lowPorts reachable : Bool) : Host where
  permits taken address :=
    owns address.ip ∧ (lowPorts ∨ address.port = 0 ∨ 1024 ≤ address.port) ∧
      ¬ taken.any address.clashesWith
  reachable := reachable

/-- Whether an address always belongs to the machine itself. -/
def isOwn (ip : IpAddress) : Bool :=
  match ip.unwrapped with
  | .v4 a b c d => a = 127 ∨ IpAddress.v4 a b c d = .unspecified
  | .v6 groups => ip = .everywhere ∨ groups = #v[0, 0, 0, 0, 0, 0, 0, 1]

/-- A machine on its own whose programs reach each other and may use every port. -/
def linked : Host := alone isOwn true true

/-- A machine without any link, not even to itself, seen by a program without privileges: no
address of the first family is refused, no address of the second is owned, and every connection
fails. -/
def unlinked : Host := alone (fun ip => ip.isFirstFamily ∨ ip = .everywhere) false false

end Host

end LiveRelay.Net
