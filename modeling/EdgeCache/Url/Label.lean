import EdgeCache.Unicode.Composition
import EdgeCache.Unicode.Folding
import EdgeCache.Unicode.Joining
import EdgeCache.Unicode.Marks
import EdgeCache.Url.Punycode

/-!
# Labels

The parts of a domain between its dots, as people write them and as they are looked up. A label beyond
ASCII is looked up in Punycode behind `xn--`, and must be one that people could have written.
-/

namespace EdgeCache.Url.Label

open Unicode

/-- What a label in Punycode begins with. -/
def mark : List Char := "xn--".toList

/-- The longest label that is written in Punycode. -/
def maxWritten : Nat := 1000

/-- The longest Punycode that is read. -/
def maxRead : Nat := 2000

/-- What is left of a label behind the mark of Punycode. -/
def code? (label : List Char) : Option (List Char) :=
  if mark.isPrefixOf label then some (label.drop mark.length) else none

/-- Whether a text is as folding and composing leave it. -/
def isSettled (label : List Char) : Bool := (fold? label).any fun cs => composedForm cs = label

/-- A label as people write it: Punycode is read, and must stand for what cannot be written without
it. -/
def read? (label : List Char) : Option (List Char) :=
  match code? label with
  | none => some label
  | some code => do
    if maxRead < code.length || !label.all Punycode.isBasic then none
    let text ← Punycode.decode? code
    if text.all Punycode.isBasic || (code? text).isSome || !isSettled text then none else some text

/-- A label as it is looked up. -/
def write? (label : List Char) : Option (List Char) :=
  if label.all Punycode.isBasic then some label
  else if maxWritten < label.length then none
  else some (mark ++ Punycode.encode label)

/-! ## Invisible joiners -/

/-- Whether a mark silences the letter in front of it. -/
def isVirama (c : Char) : Bool := combiningClass c = 9

/-- Whether the joiners of a label have an effect: behind a virama, or, for the one that keeps letters
apart, between two that would be joined. What is in front is given in reverse. -/
def joinersCount (front : List Char) : List Char → Bool
  | [] => true
  | c :: cs =>
    let here :=
      if c = '\u200c' then
        front.head?.any isVirama
          || ((front.dropWhile isPassed).head?.any joinsBehind
            && (cs.dropWhile isPassed).head?.any joinsInFront)
      else if c = '\u200d' then front.head?.any isVirama
      else true
    here && joinersCount (c :: front) cs

/-- Whether a label may stand in a domain. -/
def isValid (label : List Char) : Bool := !label.head?.any isMark && joinersCount [] label

/-! ## Directions -/

/-- Whether a character makes the rules for directions count. -/
def turns (c : Char) : Bool := direction c = .right || direction c = .arabicDigit

/-- Whether a label keeps to the rules for directions: all its letters go the way of the first
character, the last character that takes room is a letter or a digit, and a label from right to left has
digits of one kind. -/
def keepsDirection (label : List Char) : Bool :=
  let ds := label.map direction
  let final := (ds.reverse.dropWhile (· = .nonspacing)).head?
  match ds.head? with
  | none => true
  | some .left =>
    ds.all (fun d => d ≠ .right && d ≠ .arabicDigit) && (final = some .left || final = some .digit)
  | some .right =>
    ds.all (· ≠ .left) && (final.any fun d => d = .right || d = .digit || d = .arabicDigit)
      && !(ds.contains .digit && ds.contains .arabicDigit)
  | _ => false

end EdgeCache.Url.Label
