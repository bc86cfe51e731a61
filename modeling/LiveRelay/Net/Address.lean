/-
Module: LiveRelay.Net.Address
Purpose: Internet addresses and the socket addresses that listeners and peers have.
Main exports: IpAddress, SocketAddress, SocketAddress.withIp
-/

namespace LiveRelay.Net

/-- An internet address of either family: four bytes, or eight groups of sixteen bits. -/
inductive IpAddress where
  | v4 (a b c d : UInt8)
  | v6 (groups : Vector UInt16 8)
deriving Repr, DecidableEq

instance : Inhabited IpAddress := ⟨.v4 0 0 0 0⟩

/-- An address together with a port. Only an address of the second family has flow information and a
scope; both are zero where none is given. -/
inductive SocketAddress where
  | v4 (a b c d : UInt8) (port : UInt16)
  | v6 (groups : Vector UInt16 8) (flow scope : UInt32) (port : UInt16)
deriving Repr, DecidableEq

namespace IpAddress

/-- The address of the machine itself, `127.0.0.1`. -/
def localhost : IpAddress := .v4 127 0 0 1

/-- The address that stands for every address of the machine, `0.0.0.0`. -/
def unspecified : IpAddress := .v4 0 0 0 0

end IpAddress

namespace SocketAddress

/-- An address and a port, with no flow information and no scope. -/
def ofIp (ip : IpAddress) (port : UInt16) : SocketAddress :=
  match ip with
  | .v4 a b c d => .v4 a b c d port
  | .v6 groups => .v6 groups 0 0 port

instance : Inhabited SocketAddress := ⟨ofIp default 0⟩

def ip : SocketAddress → IpAddress
  | .v4 a b c d _ => .v4 a b c d
  | .v6 groups _ _ _ => .v6 groups

def port : SocketAddress → UInt16
  | .v4 _ _ _ _ port => port
  | .v6 _ _ _ port => port

def flow : SocketAddress → UInt32
  | .v4 _ _ _ _ _ => 0
  | .v6 _ flow _ _ => flow

def scope : SocketAddress → UInt32
  | .v4 _ _ _ _ _ => 0
  | .v6 _ _ scope _ => scope

/-- The same port at another address. Flow information and a scope survive only where both addresses
are of the second family. -/
def withIp (address : SocketAddress) (ip : IpAddress) : SocketAddress :=
  match ip, address with
  | .v6 groups, .v6 _ flow scope port => .v6 groups flow scope port
  | ip, address => ofIp ip address.port

@[simp] theorem port_ofIp (ip : IpAddress) (port : UInt16) : (ofIp ip port).port = port := by
  cases ip <;> rfl

@[simp] theorem ip_ofIp (ip : IpAddress) (port : UInt16) : (ofIp ip port).ip = ip := by
  cases ip <;> rfl

@[simp] theorem port_withIp (address : SocketAddress) (ip : IpAddress) :
    (address.withIp ip).port = address.port := by
  cases address <;> cases ip <;> rfl

@[simp] theorem ip_withIp (address : SocketAddress) (ip : IpAddress) :
    (address.withIp ip).ip = ip := by
  cases address <;> cases ip <;> rfl

/-- Two addresses are equal when ip, flow information, scope and port are. -/
theorem eq_of_parts {first second : SocketAddress} (ip : first.ip = second.ip)
    (flow : first.flow = second.flow) (scope : first.scope = second.scope)
    (port : first.port = second.port) : first = second := by
  cases first <;> cases second <;> simp_all [SocketAddress.ip, SocketAddress.flow,
    SocketAddress.scope, SocketAddress.port]

end SocketAddress

end LiveRelay.Net
