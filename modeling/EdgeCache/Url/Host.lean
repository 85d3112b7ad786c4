import EdgeCache.Url.Domain
import EdgeCache.Url.Error
import EdgeCache.Url.Ip

/-!
# Hosts
-/

namespace EdgeCache.Url

/-- The host of a URL. -/
inductive Host where
  | domain (name : List Char)
  | ipv4 (value : Nat)
  | ipv6 (pieces : List Nat)
  deriving DecidableEq, Repr

namespace Host

/-- The host as it is written. -/
def chars : Host → List Char
  | domain name => name
  | ipv4 v => writeIpv4 v
  | ipv6 ps => '[' :: writeIpv6 ps ++ [']']

/-- What stands in brackets. -/
def readBrackets (cs : List Char) : Except Error Host :=
  match cs.getLast? with
  | some ']' =>
    match ipv6? cs.dropLast with
    | some ps => .ok (.ipv6 ps)
    | none => .error .invalidIpv6
  | _ => .error .invalidIpv6

/-- A host on the network: an address, or a domain that does not look like one. -/
def read (cs : List Char) : Except Error Host :=
  match cs with
  | '[' :: rest => readBrackets rest
  | _ =>
    match Domain.toAscii? (decode cs) with
    | none => .error .invalidDomain
    | some [] => .error .emptyHost
    | some name =>
      if endsInNumber name then
        match ipv4? name with
        | some v => .ok (.ipv4 v)
        | none => .error .invalidIpv4
      else .ok (.domain name)

/-- Whether a character may stand in no host at all. -/
def isForbidden (c : Char) : Bool :=
  "\x00\t\n\r #/:<>?@[\\]^|".toList.contains c

/-- A host of a scheme without rules of its own: kept as it is, even if it is empty. -/
def readPlain (cs : List Char) : Except Error Host :=
  match cs with
  | '[' :: rest => readBrackets rest
  | _ =>
    if cs.any isForbidden then .error .invalidHostCharacter
    else .ok (.domain (encode inControlSet cs))

end Host

end EdgeCache.Url
