import EdgeCache.Url.Percent

/-!
# Addresses as hosts

IPv4 addresses in the forms that hosts may have: up to four numbers, decimal, octal or hexadecimal,
the last of which fills what is left. IPv6 addresses with one run of zeros left out.
-/

namespace EdgeCache.Url

/-! ## IPv4 -/

/-- A number of an IPv4 address: hexadecimal after `0x`, octal after another zero. -/
def ipv4Number? : List Char → Option Nat
  | [] => none
  | '0' :: 'x' :: ds => digitsValue? 16 ds
  | '0' :: 'X' :: ds => digitsValue? 16 ds
  | '0' :: d :: ds => digitsValue? 8 (d :: ds)
  | ds => digitsValue? 10 ds

/-- Whether the last part of a domain makes it an IPv4 address, valid or not. -/
def endsInNumber (domain : List Char) : Bool :=
  let last := match (partsAt (· = '.') domain).reverse with
    | [] :: part :: _ => part
    | part :: _ => part
    | [] => []
  (!last.isEmpty && last.all Char.isDigit) || (ipv4Number? last).isSome

/-- The value of the numbers of an address. All but the last are bytes, from the top. -/
def ipv4Value? (numbers : List Nat) : Option Nat :=
  match numbers.reverse with
  | [] => none
  | last :: front =>
    let n := front.length
    if 3 < n || front.any (255 < ·) || decide (Nat.pow 256 (4 - n) ≤ last) then none
    else some (front.reverse.foldl (fun v x => 256 * v + x) 0 * Nat.pow 256 (4 - n) + last)

/-- The value of an IPv4 address; a dot at its end does not count. -/
def ipv4? (domain : List Char) : Option Nat := do
  let parts := partsAt (· = '.') domain
  let parts := if parts.getLast? = some [] then parts.dropLast else parts
  ipv4Value? (← parts.mapM ipv4Number?)

/-- Four decimal numbers with dots between them. -/
def writeIpv4 (v : Nat) : List Char :=
  decimal (v / 16777216) ++ '.' :: decimal (v / 65536 % 256) ++ '.' :: decimal (v / 256 % 256)
    ++ '.' :: decimal (v % 256)

/-! ## IPv6 -/

/-- The pieces of an address that have been read, and where zeros were left out. -/
structure Pieces where
  pieces : List Nat
  gap : Option Nat

namespace Pieces

/-- One more piece. -/
def push (p : Pieces) (n : Nat) : Pieces := { p with pieces := p.pieces ++ [n] }

/-- All eight pieces: the gap is filled with zeros, and stands for one at least. -/
def fill? (p : Pieces) : Option (List Nat) :=
  match p.gap with
  | none => if p.pieces.length = 8 then some p.pieces else none
  | some g =>
    if 7 < p.pieces.length then none
    else some (p.pieces.take g ++ List.replicate (8 - p.pieces.length) 0 ++ p.pieces.drop g)

end Pieces

/-- A decimal byte without a leading zero. -/
def byte? (cs : List Char) : Option Nat :=
  if cs.isEmpty || (cs.head? = some '0' && 1 < cs.length) || 3 < cs.length then none
  else (digitsValue? 10 cs).filter (· ≤ 255)

/-- The two pieces of an IPv4 address at the end of an IPv6 address. -/
def embeddedIpv4? (cs : List Char) : Option (Nat × Nat) :=
  match (partsAt (· = '.') cs).mapM byte? with
  | some [a, b, c, d] => some (256 * a + b, 256 * c + d)
  | _ => none

/-- Reads the parts of an address between its colons. An empty part is a gap, of which there may be
one. -/
def readPieces : Pieces → List (List Char) → Option Pieces
  | p, [] => some p
  | p, part :: rest =>
    if part.isEmpty then
      match p.gap with
      | some _ => none
      | none => readPieces { p with gap := some p.pieces.length } rest
    else if part.contains '.' then
      if rest.isEmpty && p.pieces.length + (if p.gap.isSome then 1 else 0) ≤ 6 then
        (embeddedIpv4? part).map fun (a, b) => (p.push a).push b
      else none
    else if 4 < part.length then none
    else match digitsValue? 16 part with
      | some n => readPieces (p.push n) rest
      | none => none

/-- The parts of an address with two colons at its start or end, where one empty part is enough to
stand for the gap. A single colon there is no address. -/
def trimGap? : List (List Char) → Option (List (List Char))
  | [[]] => none
  | [[], []] => none
  | [[], [], []] => some [[]]
  | [] :: [] :: rest => trimEnd? ([] :: rest)
  | [] :: _ => none
  | parts => trimEnd? parts
where
  /-- The same at the end. -/
  trimEnd? (parts : List (List Char)) : Option (List (List Char)) :=
    match parts.reverse with
    | [] :: [] :: front => some ([] :: front).reverse
    | [] :: _ => none
    | _ => some parts

/-- The pieces of an IPv6 address without its brackets. -/
def ipv6? (cs : List Char) : Option (List Nat) := do
  let parts ← trimGap? (partsAt (· = ':') cs)
  (← readPieces ⟨[], none⟩ parts).fill?

/-- How many zeros the pieces begin with. -/
def leadingZeros (ps : List Nat) : Nat := (ps.takeWhile (· = 0)).length

/-- Where the first of the longest runs of zeros begins, and how long it is. -/
def longestZeros (ps : List Nat) : Nat × Nat :=
  (List.range ps.length).foldl (fun best i =>
    let n := leadingZeros (ps.drop i)
    if best.2 < n then (i, n) else best) (0, 0)

/-- Pieces with colons between them. -/
def writePieces (ps : List Nat) : List Char := [':'].intercalate (ps.map hexadecimal)

/-- An IPv6 address without brackets; the longest run of two or more zeros is left out. -/
def writeIpv6 (ps : List Nat) : List Char :=
  let (start, n) := longestZeros ps
  if n < 2 then writePieces ps
  else writePieces (ps.take start) ++ ':' :: ':' :: writePieces (ps.drop (start + n))

end EdgeCache.Url
