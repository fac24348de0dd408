import CommandChannel.Net.Address

/-!
# Reading addresses

Addresses are read strictly: a dotted form has four decimal octets without leading zeros, a group
has at most four hexadecimal digits, and one `::` stands for at least one zero group. Each reader
takes the characters that remain and returns its result with what is left after it.
-/

namespace CommandChannel

/-- A number below `bound`, of one digit or more. -/
def readNumber (base bound : Nat) (cs : List Char) : Option (Nat × List Char) :=
  match readDigits base 0 0 cs with
  | (value, count, rest) => if 0 < count ∧ value < bound then some (value, rest) else none

/-- One given character. -/
def readChar (expected : Char) : List Char → Option (List Char)
  | c :: cs => if c = expected then some cs else none
  | [] => none

/-- A decimal octet without leading zeros. -/
def readOctet (cs : List Char) : Option (UInt8 × List Char) :=
  match readDigits 10 0 0 cs with
  | (value, count, rest) =>
    if 0 < count ∧ count ≤ 3 ∧ (cs.head? = some '0' → count = 1) ∧ value < 256 then
      some (UInt8.ofNat value, rest)
    else
      none

/-- One to four hexadecimal digits. -/
def readGroup (cs : List Char) : Option (UInt16 × List Char) :=
  match readDigits 16 0 0 cs with
  | (value, count, rest) =>
    if 0 < count ∧ count ≤ 4 then some (UInt16.ofNat value, rest) else none

namespace Ipv4

/-- An IPv4 address at the beginning. -/
def read (cs : List Char) : Option (Ipv4 × List Char) := do
  let (a, cs) ← readOctet cs
  let (b, cs) ← readOctet (← readChar '.' cs)
  let (c, cs) ← readOctet (← readChar '.' cs)
  let (d, cs) ← readOctet (← readChar '.' cs)
  return (⟨a, b, c, d⟩, cs)

/-- The IPv4 address that a whole text names. -/
def ofText? (s : String) : Option Ipv4 :=
  match read s.toList with
  | some (addr, []) => some addr
  | _ => none

end Ipv4

namespace Ipv6

/-- Two bytes as a group. -/
def groupOfBytes (high low : UInt8) : UInt16 := high.toUInt16 <<< 8 ||| low.toUInt16

/-- At most `limit` groups with colons between them. The last two may be written as an IPv4
address, which ends the groups; the flag says that it was. With `first` no colon leads. -/
def readGroups (first : Bool) : Nat → List Char → List UInt16 × Bool × List Char
  | 0, cs => ([], false, cs)
  | limit + 1, cs =>
    let start := if first then some cs else readChar ':' cs
    match start with
    | none => ([], false, cs)
    | some body =>
      match (if limit = 0 then none else Ipv4.read body) with
      | some (inner, rest) =>
        ([groupOfBytes inner.a inner.b, groupOfBytes inner.c inner.d], true, rest)
      | none =>
        match readGroup body with
        | none => ([], false, cs)
        | some (group, rest) =>
          let (groups, dotted, rest) := readGroups false limit rest
          (group :: groups, dotted, rest)

/-- The address of eight groups. -/
def ofGroups? (groups : List UInt16) : Option Ipv6 :=
  if h : groups.length = 8 then some ⟨groups, h⟩ else none

/-- An IPv6 address at the beginning. -/
def read (cs : List Char) : Option (Ipv6 × List Char) := do
  let (head, dotted, rest) := readGroups true 8 cs
  if head.length = 8 then
    return (← ofGroups? head, rest)
  if dotted then
    failure
  let rest ← readChar ':' (← readChar ':' rest)
  let (tail, _, rest) := readGroups true (7 - head.length) rest
  let zeros := List.replicate (8 - head.length - tail.length) 0
  return (← ofGroups? (head ++ zeros ++ tail), rest)

/-- The IPv6 address that a whole text names. -/
def ofText? (s : String) : Option Ipv6 :=
  match read s.toList with
  | some (addr, []) => some addr
  | _ => none

end Ipv6

/-- The host address that a whole text names; the dotted form is tried first. -/
def IpAddr.ofText? (s : String) : Option IpAddr :=
  match Ipv4.ofText? s with
  | some addr => some (.v4 addr)
  | none => (Ipv6.ofText? s).map .v6

namespace SocketAddr

/-- A colon and a port. -/
def readPort (cs : List Char) : Option (UInt16 × List Char) := do
  let (port, cs) ← readNumber 10 65536 (← readChar ':' cs)
  return (UInt16.ofNat port, cs)

/-- A percent sign and a scope, or nothing for the global scope. -/
def readScope (cs : List Char) : UInt32 × List Char :=
  match (readChar '%' cs).bind (readNumber 10 4294967296) with
  | some (scope, rest) => (UInt32.ofNat scope, rest)
  | none => (0, cs)

/-- An IPv4 host and a port. -/
def readV4 (cs : List Char) : Option (SocketAddr × List Char) := do
  let (addr, cs) ← Ipv4.read cs
  let (port, cs) ← readPort cs
  return (.v4 addr port, cs)

/-- An IPv6 host in brackets, with a scope or without, and a port. -/
def readV6 (cs : List Char) : Option (SocketAddr × List Char) := do
  let (addr, cs) ← Ipv6.read (← readChar '[' cs)
  let (scope, cs) := readScope cs
  let (port, cs) ← readPort (← readChar ']' cs)
  return (.v6 addr port 0 scope, cs)

/-- The socket address that a whole text names. -/
def ofText? (s : String) : Option SocketAddr :=
  match (readV4 s.toList).orElse fun _ => readV6 s.toList with
  | some (addr, []) => some addr
  | _ => none

end SocketAddr

end CommandChannel
