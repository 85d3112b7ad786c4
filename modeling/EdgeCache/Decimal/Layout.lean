import EdgeCache.Decimal.Shortest

/-!
# Number text

How a number is written where a report needs it: positionally while that takes few characters, with
an exponent beyond that, and always with a mark that it is no integer.
-/

namespace EdgeCache.Decimal

/-- Where positional notation ends. -/
structure Layout where
  /-- The most digits in front of the point. -/
  integerDigits : Int
  /-- The most zeros between the point and the first digit. -/
  leadingZeros : Int

/-- Digits of a positional number, point included. -/
def Layout.positional? (l : Layout) (digits : List Char) (exponent : Int) : Option String :=
  let n : Int := digits.length
  let point := n + exponent
  if 0 ≤ exponent && decide (point ≤ l.integerDigits) then
    some (String.ofList (digits ++ List.replicate exponent.toNat '0' ++ ['.', '0']))
  else if 0 < point && decide (point ≤ l.integerDigits) then
    some (String.ofList (digits.take point.toNat ++ '.' :: digits.drop point.toNat))
  else if -l.leadingZeros ≤ point && decide (point ≤ 0) then
    some (String.ofList (['0', '.'] ++ List.replicate (-point).toNat '0' ++ digits))
  else none

/-- Digits and an exponent of ten. -/
def scientific (digits : List Char) (exponent : Int) : String :=
  let e := toString (digits.length + exponent - 1)
  match digits with
  | [] => "0.0"
  | [d] => String.ofList [d, 'e'] ++ e
  | d :: ds => String.ofList (d :: '.' :: ds) ++ "e" ++ e

/-- The text of a positive decimal. -/
def Layout.write (l : Layout) (d : Decimal) : String :=
  let digits := Nat.toDigits 10 d.digits
  (l.positional? digits d.exponent).getD (scientific digits d.exponent)

/-- The text of a finite number; zero keeps its sign. -/
def Layout.writeFloat (l : Layout) (x : Float) : String :=
  let bits := x.toBits
  let sign := if bits >>> 63 = 0 then "" else "-"
  let magnitude := bits &&& 0x7fffffffffffffff
  sign ++ (if magnitude = 0 then "0.0" else l.write (shortest (.ofBits magnitude)))

end EdgeCache.Decimal
