import EdgeCache.Text
import EdgeCache.Toml.Node

/-!
# Scalars

Values without quotes or brackets: truth values, integers, floats, dates and times.
-/

namespace EdgeCache.Toml

/-- The digits of a number, without the underscores that may stand between two of them. -/
def digits? (isDigit : Char → Bool) (cs : List Char) : Option (List Char) :=
  let parts := partsAt (· = '_') cs
  if parts.all fun p => !p.isEmpty && p.all isDigit then some parts.flatten else none

/-- A sign, if there is one, and what follows it. -/
def takeSign : List Char → Bool × List Char
  | '+' :: r => (false, r)
  | '-' :: r => (true, r)
  | r => (false, r)

/-- Decimal digits without a leading zero. -/
def wholeDigits? (cs : List Char) : Option (List Char) :=
  (digits? Char.isDigit cs).filter fun ds => ds.length = 1 || ds.head? ≠ some '0'

/-- The value of digits in a base. -/
def inBase? (base : Nat) (cs : List Char) : Option Node := do
  let isDigit (c : Char) : Bool := (hexValue? c).any (· < base)
  return .integer (← digitsValue? base (← digits? isDigit cs))

/-- An integer: in hexadecimal, octal or binary without a sign, or in decimal. -/
def integer? : List Char → Option Node
  | '0' :: 'x' :: ds => inBase? 16 ds
  | '0' :: 'o' :: ds => inBase? 8 ds
  | '0' :: 'b' :: ds => inBase? 2 ds
  | cs => do
    let (negative, cs) := takeSign cs
    let n ← digitsValue? 10 (← wholeDigits? cs)
    return .integer (if negative then -n else n)

/-- Whether `m · 10^e` is less than what rounds to infinity in binary64. -/
def inBinary64Range (m : Nat) (e : Int) : Bool :=
  let top : Int := (decimal m).length + e
  if m = 0 || decide (top < 300) then true
  else if 310 < top then false
  else
    let limit := Nat.pow 2 1024 - Nat.pow 2 970
    if 0 ≤ e then decide (m * Nat.pow 10 e.toNat < limit)
    else decide (m < limit * Nat.pow 10 (-e).toNat)

/-- A float: digits with a fraction or an exponent or both, or the name of a special value. -/
def float? (cs : List Char) : Option Node := do
  let (_, cs) := takeSign cs
  if cs = "inf".toList || cs = "nan".toList then return .float true
  let (mantissa, exponent?) ← match partsAt (fun c => c = 'e' || c = 'E') cs with
    | [m] => some (m, none)
    | [m, e] => some (m, some e)
    | _ => none
  let (whole, fraction?) ← match partsAt (· = '.') mantissa with
    | [w] => some (w, none)
    | [w, f] => some (w, some f)
    | _ => none
  if exponent?.isNone && fraction?.isNone then none
  let whole ← wholeDigits? whole
  let fraction ← match fraction? with
    | some f => digits? Char.isDigit f
    | none => some []
  let exponent ← match exponent? with
    | some e =>
      let (negative, ds) := takeSign e
      (digits? Char.isDigit ds).bind fun ds =>
        (digitsValue? 10 ds).map fun (n : Nat) => if negative then -(n : Int) else n
    | none => some 0
  let m ← digitsValue? 10 (whole ++ fraction)
  return .float (inBinary64Range m (exponent - fraction.length))

/-- The number of days of a month. -/
def daysIn (year month : Nat) : Nat :=
  if month = 2 then
    if (year % 4 = 0 && year % 100 ≠ 0) || year % 400 = 0 then 29 else 28
  else if month = 4 || month = 6 || month = 9 || month = 11 then 30
  else 31

/-- A number of exactly so many decimal digits, and what follows it. -/
def takeDigits? (n : Nat) (cs : List Char) : Option (Nat × List Char) :=
  let ds := cs.take n
  if ds.length = n && ds.all Char.isDigit then (digitsValue? 10 ds).map (·, cs.drop n) else none

/-- A character that has to come next. -/
def expect? (c : Char) : List Char → Option (List Char)
  | d :: r => if c = d then some r else none
  | [] => none

/-- A date, and what follows it. -/
def takeDate? (cs : List Char) : Option (List Char) := do
  let (year, cs) ← takeDigits? 4 cs
  let (month, cs) ← takeDigits? 2 (← expect? '-' cs)
  let (day, cs) ← takeDigits? 2 (← expect? '-' cs)
  if 1 ≤ month && month ≤ 12 && 1 ≤ day && day ≤ daysIn year month then some cs else none

/-- A time, with or without seconds, and what follows it. A second may be a leap second. -/
def takeTime? (cs : List Char) : Option (List Char) := do
  let (hour, cs) ← takeDigits? 2 cs
  let (minute, cs) ← takeDigits? 2 (← expect? ':' cs)
  if 23 < hour || 59 < minute then none
  else match cs with
    | ':' :: cs => do
      let (second, cs) ← takeDigits? 2 cs
      if 60 < second then none
      else match cs with
        | '.' :: cs =>
          let rest := cs.dropWhile Char.isDigit
          if rest.length = cs.length then none else some rest
        | cs => some cs
    | cs => some cs

/-- A distance from universal time, up to the end of the text. -/
def isOffset : List Char → Bool
  | ['Z'] => true
  | ['z'] => true
  | s :: cs =>
    (s = '+' || s = '-') && ((do
      let (hour, cs) ← takeDigits? 2 cs
      let (minute, cs) ← takeDigits? 2 (← expect? ':' cs)
      return cs.isEmpty && minute ≤ 59 && 60 * hour + minute ≤ 1440).getD false)
  | [] => false

/-- A date, a time, or both with or without a distance from universal time. -/
def moment? (cs : List Char) : Option Node :=
  match takeDate? cs with
  | some [] => some .moment
  | some (t :: rest) =>
    if t = 'T' || t = 't' || t = ' ' then
      match takeTime? rest with
      | some [] => some .moment
      | some offset => if isOffset offset then some .moment else none
      | none => none
    else none
  | none =>
    match takeTime? cs with
    | some [] => some .moment
    | _ => none

/-- A value without quotes or brackets. -/
def scalar? (cs : List Char) : Option Node :=
  if cs = "true".toList then some (.boolean true)
  else if cs = "false".toList then some (.boolean false)
  else ((integer? cs).or (float? cs)).or (moment? cs)

/-- Whether a character may stand in such a value. -/
def isScalarChar (c : Char) : Bool :=
  c.isAlphanum || c = '+' || c = '-' || c = '_' || c = '.' || c = ':'

/-- The text of such a value, and what follows it. A blank may stand between a date and a time. -/
def takeScalar (cs : List Char) : List Char × List Char :=
  let front := cs.takeWhile isScalarChar
  let back := cs.drop front.length
  match back with
  | ' ' :: d :: rest =>
    if d.isDigit && takeDate? front = some [] then
      let more := (d :: rest).takeWhile isScalarChar
      (front ++ ' ' :: more, (d :: rest).drop more.length)
    else (front, back)
  | _ => (front, back)

end EdgeCache.Toml
