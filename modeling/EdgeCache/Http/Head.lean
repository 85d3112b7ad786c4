import EdgeCache.Text

/-!
# Heads

What stands in front of the body of a message on the wire: a line, headers, and a blank line. Every line
ends with a carriage return and a line feed.
-/

namespace EdgeCache.Http

/-- A header as it is received. -/
structure Header where
  name : String
  value : ByteArray
  deriving DecidableEq

/-- Whether two names are the same but for upper and lower case. -/
def sameName (a b : String) : Bool := a.toList.map Char.toLower = b.toList.map Char.toLower

/-- The value of the first header of a name. -/
def headerValue? (headers : List Header) (name : String) : Option ByteArray :=
  (headers.find? fun h => sameName h.name name).map Header.value

/-- Bytes read as one character each. -/
def plainChars (bytes : List UInt8) : List Char := bytes.map fun b => Char.ofNat b.toNat

/-- Bytes read as text, one character each. -/
def plainText (bytes : List UInt8) : String := String.ofList (plainChars bytes)

/-- What ends a line. -/
def lineEnd : ByteArray := "\r\n".toUTF8

/-- The first place from `i` on where a mark begins. -/
def placeOf? (mark bytes : ByteArray) (i : Nat) : Option Nat :=
  if i + mark.size ≤ bytes.size then
    if bytes.extract i (i + mark.size) = mark then some i else placeOf? mark bytes (i + 1)
  else none
termination_by bytes.size + 1 - i

/-- Bytes without the blanks at their ends. -/
def trimBlanks (bytes : List UInt8) : List UInt8 :=
  let isBlank (b : UInt8) : Bool := b = 0x20 || b = 0x09 || b = 0x0d
  ((bytes.dropWhile isBlank).reverse.dropWhile isBlank).reverse

/-- The line and the headers in front of a body. -/
structure Head where
  line : String
  headers : List Header

namespace Head

/-- A header from its line. -/
def header? (line : List UInt8) : Option Header :=
  match line.dropWhile (· ≠ 0x3a) with
  | _ :: value =>
    some ⟨plainText (line.takeWhile (· ≠ 0x3a)), ByteArray.mk (trimBlanks value).toArray⟩
  | [] => none

/-- A head from its lines. -/
def ofLines? (lines : List (List UInt8)) : Option Head := do
  let line ← lines.head?
  return ⟨plainText line, ← lines.tail.mapM header?⟩

/-- What has been received of a head. -/
inductive Progress where
  | unfinished
  | malformed
  /-- The head, and where the body begins. -/
  | done (head : Head) (body : Nat)

/-- The head at the start of what has been received. -/
def read (received : ByteArray) : Progress :=
  match placeOf? "\r\n\r\n".toUTF8 received 0 with
  | none => .unfinished
  | some n =>
    match ofLines? (((received.extract 0 n).toList.splitOn 0x0a).map trimBlanks) with
    | some head => .done head (n + 4)
    | none => .malformed

end Head

end EdgeCache.Http
