/-!
# Shortest decimals

The decimal with the fewest digits that still reads back as a given binary64 number, and of those the
nearest to it. The work is done in exact fractions of natural numbers.
-/

namespace EdgeCache

/-- A decimal number `digits · 10^exponent`. -/
structure Decimal where
  digits : Nat
  exponent : Int
  deriving DecidableEq, Repr

namespace Decimal

/-- A fraction of natural numbers. -/
structure Fraction where
  num : Nat
  den : Nat

namespace Fraction

/-- `m · b^e`. -/
def scaled (m b : Nat) (e : Int) : Fraction :=
  if 0 ≤ e then ⟨m * b.pow e.toNat, 1⟩ else ⟨m, b.pow (-e).toNat⟩

/-- Whether one fraction is at most another. -/
def le (a b : Fraction) : Bool := decide (a.num * b.den ≤ b.num * a.den)

/-- Whether one fraction is less than another. -/
def lt (a b : Fraction) : Bool := !b.le a

/-- The distance between two fractions. -/
def dist (a b : Fraction) : Fraction :=
  let x := a.num * b.den
  let y := b.num * a.den
  ⟨(x - y) + (y - x), a.den * b.den⟩

end Fraction

/-- The numbers that round to a binary64 number, and the number itself. -/
structure Cell where
  value : Fraction
  lower : Fraction
  upper : Fraction
  /-- Whether the two ends round to it as well. -/
  closed : Bool

namespace Cell

/-- Whether a number rounds to the cell's value. -/
def contains (c : Cell) (x : Fraction) : Bool :=
  if c.closed then c.lower.le x && x.le c.upper else c.lower.lt x && x.lt c.upper

/-- The cell of `m · 2^q`. The gap below a power of two is half as wide as the one above. -/
def of (m : Nat) (q : Int) : Cell where
  value := .scaled (4 * m) 2 (q - 2)
  lower := .scaled (if m = Nat.pow 2 52 && decide (-1074 < q) then 4 * m - 1 else 4 * m - 2) 2 (q - 2)
  upper := .scaled (4 * m + 2) 2 (q - 2)
  closed := m % 2 = 0

/-- The cell of a positive finite number, read off its bits. -/
def ofBits (bits : UInt64) : Cell :=
  let e := ((bits >>> 52) &&& 0x7ff).toNat
  let f := (bits &&& 0xfffffffffffff).toNat
  if e = 0 then of f (-1074) else of (f + Nat.pow 2 52) (e - 1075)

end Cell

/-- The exponent of the power of ten just above a positive fraction. -/
def magnitude (x : Fraction) : Int :=
  if x.den ≤ x.num then ((Nat.toDigits 10 (x.num / x.den)).length : Int)
  else -((((List.range 400).find? fun j => x.den ≤ x.num * Nat.pow 10 (j + 1)).getD 0 : Nat) : Int)

/-- The value of a decimal. -/
def toFraction (d : Decimal) : Fraction := .scaled d.digits 10 d.exponent

/-- The neighbour of the value on the grid of the decimals with the given exponent that rounds to
the value; of two such the nearer, and of two equally near the even one. -/
def onGrid? (c : Cell) (exponent : Int) : Option Decimal :=
  let unit := Fraction.scaled 1 10 exponent
  let below := c.value.num * unit.den / (c.value.den * unit.num)
  let lo : Decimal := ⟨below, exponent⟩
  let hi : Decimal := ⟨below + 1, exponent⟩
  match c.contains lo.toFraction, c.contains hi.toFraction with
  | false, false => none
  | true, false => some lo
  | false, true => some hi
  | true, true =>
    let dl := lo.toFraction.dist c.value
    let dh := hi.toFraction.dist c.value
    if dl.lt dh then some lo
    else if dh.lt dl then some hi
    else if below % 2 = 0 then some lo else some hi

/-- The shortest decimal of a cell; seventeen digits always suffice. -/
def shortest (c : Cell) : Decimal :=
  let top := magnitude c.value
  ((List.range 17).findSome? fun n => onGrid? c (top - (n + 1 : Nat))).getD ⟨0, 0⟩

end Decimal

end EdgeCache
