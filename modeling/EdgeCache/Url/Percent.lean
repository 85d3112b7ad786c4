import EdgeCache.Text

/-!
# Percent-encoding

Characters that may not stand in a part of a URL are written as the bytes of their UTF-8 form, each
as a percent sign and two hexadecimal digits. Which characters these are depends on the part; a
character beyond ASCII always is one of them.
-/

namespace EdgeCache.Url

/-- Controls, and all that is not ASCII: encoded everywhere. -/
def inControlSet (c : Char) : Bool := c < ' ' || '\x7f' ≤ c

/-- What is encoded in a fragment. -/
def inFragmentSet (c : Char) : Bool :=
  inControlSet c || c = ' ' || c = '"' || c = '<' || c = '>' || c = '`'

/-- What is encoded in a path. -/
def inPathSet (c : Char) : Bool :=
  inFragmentSet c || c = '#' || c = '?' || c = '\x7b' || c = '\x7d'

/-- What is encoded in a user name or a password. -/
def inUserinfoSet (c : Char) : Bool := inPathSet c || "/:;=@[\\]^|".toList.contains c

/-- What is encoded in a query. A quote is encoded as well in the schemes of the web. -/
def inQuerySet (special : Bool) (c : Char) : Bool :=
  inControlSet c || c = ' ' || c = '"' || c = '#' || c = '<' || c = '>' || (special && c = '\'')

/-- The upper-case hexadecimal digit of a number below sixteen. -/
def hexDigit (n : Nat) : Char := if n < 10 then Char.ofNat (48 + n) else Char.ofNat (55 + n)

/-- A byte as a percent sign and two digits. -/
def encodeByte (b : UInt8) : List Char := ['%', hexDigit (b.toNat / 16), hexDigit (b.toNat % 16)]

/-- A character as it is written where the set is encoded. -/
def encodeChar (set : Char → Bool) (c : Char) : List Char :=
  if set c then (String.utf8EncodeChar c).flatMap encodeByte else [c]

/-- A text as it is written where the set is encoded. -/
def encode (set : Char → Bool) (cs : List Char) : List Char := cs.flatMap (encodeChar set)

/-- The bytes of a text, with every percent sign and two digits read as one byte. -/
def decode : List Char → List UInt8
  | '%' :: a :: b :: rest =>
    match hexValue? a, hexValue? b with
    | some x, some y => (16 * x + y).toUInt8 :: decode rest
    | _, _ => '%'.toNat.toUInt8 :: decode (a :: b :: rest)
  | c :: rest => String.utf8EncodeChar c ++ decode rest
  | [] => []

end EdgeCache.Url
