/-!
# Text

Parts between marks, numbers in their digits, and bytes that can be compared.
-/

namespace EdgeCache

/-- The parts of a text between the marks. There is always one. -/
def partsAt (mark : Char → Bool) : List Char → List (List Char)
  | [] => [[]]
  | c :: cs =>
    if mark c then [] :: partsAt mark cs
    else match partsAt mark cs with
      | [] => [[c]]
      | part :: parts => (c :: part) :: parts

/-- The value of a hexadecimal digit of either case. -/
def hexValue? (c : Char) : Option Nat :=
  if '0' ≤ c && c ≤ '9' then some (c.toNat - 48)
  else if 'a' ≤ c && c ≤ 'f' then some (c.toNat - 87)
  else if 'A' ≤ c && c ≤ 'F' then some (c.toNat - 55)
  else none

/-- The value of digits in a base; `none` if there is another character. -/
def digitsValue? (base : Nat) (cs : List Char) : Option Nat :=
  cs.foldlM (fun n c => (hexValue? c).bind fun d => if d < base then some (base * n + d) else none) 0

/-- A natural number in decimal. -/
def decimal (n : Nat) : List Char := Nat.toDigits 10 n

/-- A natural number in lower-case hexadecimal. -/
def hexadecimal (n : Nat) : List Char := Nat.toDigits 16 n

/-- Bytes are compared one by one. -/
instance (priority := high) decidableEqBytes : DecidableEq ByteArray := ByteArray.instDecidableEq

end EdgeCache
