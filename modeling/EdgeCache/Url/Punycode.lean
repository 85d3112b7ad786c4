/-!
# Punycode

A label with characters beyond ASCII, written in ASCII: first its ASCII characters, then where the
others are inserted. Insertions go by code and then by place. Each is a number, namely how many codes
and places lie between it and the one before it, and the number is written in digits whose weights
adapt to the numbers so far.
-/

namespace EdgeCache.Url.Punycode

/-- A digit below 36: letters, then decimal digits. -/
def digit (n : Nat) : Char := if n < 26 then Char.ofNat (97 + n) else Char.ofNat (22 + n)

/-- The value of a digit. -/
def digitValue? (c : Char) : Option Nat :=
  if 'a' ≤ c && c ≤ 'z' then some (c.toNat - 97)
  else if 'A' ≤ c && c ≤ 'Z' then some (c.toNat - 65)
  else if '0' ≤ c && c ≤ '9' then some (c.toNat - 22)
  else none

/-- A digit below the threshold of its position is the last one of its number. -/
def threshold (bias position : Nat) : Nat := min 26 (max 1 (position - bias))

theorem one_le_threshold (bias position : Nat) : 1 ≤ threshold bias position := by
  simp only [threshold]
  omega

/-- The bias that a number of some size calls for. -/
def biasOf (size position : Nat) : Nat :=
  if 455 < size then biasOf (size / 35) (position + 36) else position + 36 * size / (size + 38)

/-- The bias after a number, when there are so many characters. -/
def adapt (number count : Nat) (isFirst : Bool) : Nat :=
  let size := number / if isFirst then 700 else 2
  biasOf (size + size / count) 0

/-- Where an insertion is: the code of the character, and how many characters go in front. -/
structure Cursor where
  code : Nat
  place : Nat

/-- In front of every insertion. -/
def Cursor.start : Cursor := ⟨128, 0⟩

/-- The number of the cursor when there are so many characters: for each code there is a place in
front of each character and one behind all. -/
def Cursor.number (c : Cursor) (count : Nat) : Nat := c.code * (count + 1) + c.place

/-- The cursor of a number. -/
def Cursor.ofNumber (n count : Nat) : Cursor := ⟨n / (count + 1), n % (count + 1)⟩

/-- Behind an inserted character. -/
def Cursor.next (c : Cursor) : Cursor := ⟨c.code, c.place + 1⟩

/-- Whether a character is ASCII. -/
def isBasic (c : Char) : Bool := c < '\x80'

/-! ## Writing -/

/-- The digits of a number, from a position on. -/
def writeNumber (bias position n : Nat) : List Char :=
  let t := threshold bias position
  if n < t then [digit n]
  else digit (t + (n - t) % (36 - t)) :: writeNumber bias (position + 36) ((n - t) / (36 - t))
termination_by n
decreasing_by
  have := one_le_threshold bias position
  exact Nat.lt_of_le_of_lt (Nat.div_le_self _ _) (by omega)

/-- The insertions that are left of a text: each character that is not ASCII, with the number of those
in front of it that are there by then. -/
def insertions (front : List Char) : List Char → List Cursor
  | [] => []
  | c :: cs =>
    let rest := insertions (front ++ [c]) cs
    if isBasic c then rest else ⟨c.toNat, front.countP (· ≤ c)⟩ :: rest

/-- The numbers of insertions in order, when there are so many characters. -/
def writeInsertions (c : Cursor) (bias count : Nat) (isFirst : Bool) : List Cursor → List Char
  | [] => []
  | i :: is =>
    let n := i.number count - c.number count
    writeNumber bias 36 n
      ++ writeInsertions i.next (adapt n (count + 1) isFirst) (count + 1) false is

/-- A text in Punycode. -/
def encode (cs : List Char) : List Char :=
  let basic := cs.filter isBasic
  let inOrder := (insertions [] cs).mergeSort fun a b => decide (a.code ≤ b.code)
  basic ++ (if basic.isEmpty then [] else ['-']) ++ writeInsertions .start 72 basic.length true inOrder

/-! ## Reading -/

/-- A text in the making, and the number that is being read. -/
structure Draft where
  text : List Char
  cursor : Cursor
  bias : Nat
  isFirst : Bool
  number : Nat
  weight : Nat
  position : Nat

/-- Inserts the character that the number stands for. -/
def Draft.insert? (d : Draft) : Option Draft :=
  let count := d.text.length
  let c := Cursor.ofNumber (d.cursor.number count + d.number) count
  if c.code.isValidChar then
    some ⟨d.text.take c.place ++ Char.ofNat c.code :: d.text.drop c.place, c.next,
      adapt d.number (count + 1) d.isFirst, false, 0, 1, 36⟩
  else none

/-- One more digit. -/
def Draft.push? (d : Draft) (c : Char) : Option Draft := do
  let n ← digitValue? c
  let t := threshold d.bias d.position
  let d := { d with number := d.number + n * d.weight }
  if n < t then d.insert?
  else some { d with weight := d.weight * (36 - t), position := d.position + 36 }

/-- The text of insertions into some characters; a number must not break off. -/
def readInsertions? (basic code : List Char) : Option (List Char) := do
  let d ← code.foldlM Draft.push? ⟨basic, .start, 72, true, 0, 1, 36⟩
  if d.position = 36 then some d.text else none

/-- The text of some Punycode. The last hyphen ends its ASCII characters. -/
def decode? (cs : List Char) : Option (List Char) :=
  match cs.reverse.dropWhile (· ≠ '-') with
  | _ :: basic => readInsertions? basic.reverse (cs.reverse.takeWhile (· ≠ '-')).reverse
  | [] => readInsertions? [] cs

end EdgeCache.Url.Punycode
