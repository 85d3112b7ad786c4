import EdgeCache.Text

/-!
# Tables of characters

What a standard says of characters, run by run. A table is written as words with blanks or line ends
between them, and every number in it is hexadecimal. The word `41-5a>61` says of the characters from
41 to 5a that they lead to those from 61 on, `100-12e/2>101` says so of every second character, and
`df>73.73` lets one character lead to two.
-/

namespace EdgeCache.Unicode

/-- Characters at equal distances, and what they lead to. -/
structure Run where
  first : Nat
  last : Nat
  step : Nat
  /-- What the first one leads to. -/
  target : List Nat
  deriving DecidableEq, Repr

namespace Run

/-- Whether a character is one of the run. -/
def covers (r : Run) (c : Char) : Bool :=
  r.first ≤ c.toNat && c.toNat ≤ r.last && (c.toNat - r.first) % r.step = 0

/-- What a character of the run leads to: the head of the target moves along with it. -/
def image (r : Run) (c : Char) : List Char :=
  match r.target with
  | [] => []
  | t :: ts => Char.ofNat (t + (c.toNat - r.first)) :: ts.map Char.ofNat

/-- Numbers with marks between them. -/
def numbers? (mark : Char) (cs : List Char) : Option (List Nat) :=
  (partsAt (· = mark) cs).mapM fun ds => if ds.isEmpty then none else digitsValue? 16 ds

/-- Reads a word. -/
def ofWord? (word : List Char) : Option Run := do
  let (front, target) ← match partsAt (· = '>') word with
    | [front] => some (front, [])
    | [front, target] => (numbers? '.' target).map (front, ·)
    | _ => none
  let (ends, step) ← match partsAt (· = '/') front with
    | [ends] => some (ends, 1)
    | [ends, step] => (digitsValue? 16 step).map (ends, ·)
    | _ => none
  match ← numbers? '-' ends with
  | [a] => return ⟨a, a, step, target⟩
  | [a, b] => return ⟨a, b, step, target⟩
  | _ => none

end Run

/-- What a standard says of characters. -/
abbrev Table := List Run

namespace Table

/-- Reads a table. -/
def ofText (s : String) : Table :=
  ((s.splitOn "\n").flatMap (·.splitOn " ")).filterMap fun w => Run.ofWord? w.toList

/-- The run of a character. -/
def run? (t : Table) (c : Char) : Option Run := t.find? (·.covers c)

/-- Whether a table says anything of a character. -/
def contains (t : Table) (c : Char) : Bool := t.any (·.covers c)

/-- What a character leads to. -/
def image? (t : Table) (c : Char) : Option (List Char) := (t.run? c).map (·.image c)

end Table

end EdgeCache.Unicode
