import EdgeCache.Url.Ip

/-!
# Socket addresses

Where a server listens: an address in numbers and a port.
-/

namespace EdgeCache

/-- An address and a port. -/
inductive SocketAddress where
  | ipv4 (bytes : List Nat) (port : UInt16)
  | ipv6 (pieces : List Nat) (port : UInt16)
  deriving DecidableEq, Repr

namespace SocketAddress

/-- The number of an interface, behind a percent sign. -/
def isScope (cs : List Char) : Bool :=
  !cs.isEmpty && ((digitsValue? 10 cs).any (· < Nat.pow 2 32))

/-- An IPv6 address, perhaps with an interface. -/
def ipv6Scoped? (cs : List Char) : Option (List Nat) :=
  match cs.dropWhile (· ≠ '%') with
  | [] => Url.ipv6? cs
  | _ :: scope => if isScope scope then Url.ipv6? (cs.takeWhile (· ≠ '%')) else none

/-- The socket address of a host and a port: four decimal numbers, or an IPv6 address in brackets.
A name is no such address. -/
def of? (host : String) (port : UInt16) : Option SocketAddress :=
  match host.toList with
  | '[' :: rest =>
    if rest.getLast? = some ']' then (ipv6Scoped? rest.dropLast).map (.ipv6 · port) else none
  | cs =>
    match (partsAt (· = '.') cs).mapM Url.byte? with
    | some [a, b, c, d] => some (.ipv4 [a, b, c, d] port)
    | _ => none

end SocketAddress

end EdgeCache
