import CommandChannel.Text.Digits

/-!
# Network addresses and their texts

IPv4 addresses are four octets, IPv6 addresses eight 16-bit groups. A text of an IPv6 address
shortens the first of the longest runs of at least two zero groups; an address that embeds an IPv4
address ends in its dotted form.
-/

namespace CommandChannel

/-- An IPv4 address. -/
structure Ipv4 where
  a : UInt8
  b : UInt8
  c : UInt8
  d : UInt8
deriving DecidableEq, Repr

/-- An IPv6 address: eight groups of 16 bits. -/
structure Ipv6 where
  groups : List UInt16
  length_eq : groups.length = 8 := by rfl
deriving DecidableEq, Repr

/-- An address of a host. -/
inductive IpAddr where
  | v4 (addr : Ipv4)
  | v6 (addr : Ipv6)
deriving DecidableEq, Repr

/-- An address of one end of a connection. Only IPv6 has flow labels and scopes. -/
inductive SocketAddr where
  | v4 (addr : Ipv4) (port : UInt16)
  | v6 (addr : Ipv6) (port : UInt16) (flowLabel : UInt32) (scope : UInt32)
deriving DecidableEq, Repr

namespace Ipv4

/-- The address `127.0.0.1` of the own host. -/
def loopback : Ipv4 := ⟨127, 0, 0, 1⟩

/-- Four decimal octets with points between them. -/
def text (addr : Ipv4) : List Char :=
  decimalDigits addr.a.toNat ++ '.' :: decimalDigits addr.b.toNat ++
    '.' :: decimalDigits addr.c.toNat ++ '.' :: decimalDigits addr.d.toNat

end Ipv4

namespace Ipv6

/-- The address `::1` of the own host. -/
def loopback : Ipv6 := ⟨[0, 0, 0, 0, 0, 0, 0, 1], rfl⟩

/-- The IPv4 address that an address of the form `::ffff:0:0/96` embeds. -/
def embedded? (addr : Ipv6) : Option Ipv4 :=
  match addr.groups with
  | [0, 0, 0, 0, 0, 0xffff, x, y] =>
    some ⟨(x >>> 8).toUInt8, x.toUInt8, (y >>> 8).toUInt8, y.toUInt8⟩
  | _ => none

/-- The number of zero groups at the beginning. -/
def leadingZeros (groups : List UInt16) : Nat := (groups.takeWhile (· == 0)).length

/-- The start and the length of the first of the longest runs of zero groups. -/
def longestZeros : List UInt16 → Nat × Nat
  | [] => (0, 0)
  | g :: gs =>
    let here := leadingZeros (g :: gs)
    let (start, length) := longestZeros gs
    if length ≤ here then (0, here) else (start + 1, length)

/-- Groups in hexadecimal with colons between them. -/
def groupsText (groups : List UInt16) : List Char :=
  (groups.map fun g => hexDigits g.toNat).intersperse [':'] |>.flatten

/-- The shortened text of an IPv6 address. -/
def text (addr : Ipv6) : List Char :=
  match addr.embedded? with
  | some inner => "::ffff:".toList ++ inner.text
  | none =>
    let (start, length) := longestZeros addr.groups
    if 1 < length then
      groupsText (addr.groups.take start) ++ "::".toList ++
        groupsText (addr.groups.drop (start + length))
    else
      groupsText addr.groups

end Ipv6

namespace IpAddr

/-- The text of a host address. -/
def text : IpAddr → List Char
  | .v4 addr => addr.text
  | .v6 addr => addr.text

/-- The address of a port on a host, without flow label and in the global scope. -/
def withPort (port : UInt16) : IpAddr → SocketAddr
  | .v4 addr => .v4 addr port
  | .v6 addr => .v6 addr port 0 0

end IpAddr

namespace SocketAddr

/-- The host of an address. -/
def ip : SocketAddr → IpAddr
  | .v4 addr _ => .v4 addr
  | .v6 addr _ _ _ => .v6 addr

/-- The port of an address. -/
def port : SocketAddr → UInt16
  | .v4 _ port => port
  | .v6 _ port _ _ => port

/-- The address of another port on the same host. -/
def withPort (port : UInt16) : SocketAddr → SocketAddr
  | .v4 addr _ => .v4 addr port
  | .v6 addr _ flowLabel scope => .v6 addr port flowLabel scope

/-- A host and a port; an IPv6 host stands in brackets, with its scope if it has one. -/
def text : SocketAddr → List Char
  | .v4 addr port => addr.text ++ ':' :: decimalDigits port.toNat
  | .v6 addr port _ scope =>
    let zone := if scope = 0 then [] else '%' :: decimalDigits scope.toNat
    '[' :: addr.text ++ zone ++ ']' :: ':' :: decimalDigits port.toNat

instance : ToString SocketAddr := ⟨fun addr => String.ofList addr.text⟩

end SocketAddr

end CommandChannel
