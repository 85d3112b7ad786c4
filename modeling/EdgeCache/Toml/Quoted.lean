import EdgeCache.Text

/-!
# Quoted text

Text in quotes: one line or many, with escapes or without. A reader is given what follows the opening
quotes, and gives the text and what follows the closing ones.
-/

namespace EdgeCache.Toml

/-- Whether a character may stand in a text or a comment as it is. -/
def isPlainChar (c : Char) : Bool := c = '\t' || (' ' ≤ c && c ≠ '\x7f')

/-- Blanks within a line. -/
def isBlank (c : Char) : Bool := c = ' ' || c = '\t'

/-- The character of a code in hexadecimal digits. -/
def charOfHex? (digits : List Char) : Option Char := do
  let n ← digitsValue? 16 digits
  if n.isValidChar then some (Char.ofNat n) else none

/-- The character of an escape without digits. -/
def escapeChar? (c : Char) : Option Char :=
  match c with
  | 'b' => some '\x08'
  | 't' => some '\t'
  | 'n' => some '\n'
  | 'f' => some '\x0c'
  | 'r' => some '\r'
  | 'e' => some '\x1b'
  | '"' => some '"'
  | '\\' => some '\\'
  | _ => none

/-- One line with escapes. The text so far is kept in reverse. -/
def readBasic (acc : List Char) : List Char → Option (List Char × List Char)
  | '"' :: r => some (acc.reverse, r)
  | '\\' :: 'x' :: a :: b :: r => do readBasic ((← charOfHex? [a, b]) :: acc) r
  | '\\' :: 'u' :: a :: b :: c :: d :: r => do readBasic ((← charOfHex? [a, b, c, d]) :: acc) r
  | '\\' :: 'U' :: a :: b :: c :: d :: e :: f :: g :: h :: r => do
    readBasic ((← charOfHex? [a, b, c, d, e, f, g, h]) :: acc) r
  | '\\' :: c :: r => do readBasic ((← escapeChar? c) :: acc) r
  | c :: r => if c ≠ '\\' && isPlainChar c then readBasic (c :: acc) r else none
  | [] => none

/-- One line without escapes. -/
def readLiteral (acc : List Char) : List Char → Option (List Char × List Char)
  | '\'' :: r => some (acc.reverse, r)
  | c :: r => if isPlainChar c then readLiteral (c :: acc) r else none
  | [] => none

/-- What follows the opening quotes of many lines: a line end right after them does not count. -/
def dropLineEnd : List Char → List Char
  | '\n' :: r => r
  | '\r' :: '\n' :: r => r
  | r => r

/-- Where a reader of many lines is. -/
inductive Phase where
  | text
  /-- Behind a backslash and blanks, where the line has to end. -/
  | lineEnd
  /-- Behind the end of such a line, where blanks and line ends do not count. -/
  | margin
  deriving DecidableEq

/-- Many lines with escapes. Up to two quotes may stand in front of the closing ones. -/
def readBasicLines (p : Phase) (acc : List Char) : List Char → Option (List Char × List Char)
  | [] => none
  | '\n' :: r => if p = .text then readBasicLines .text ('\n' :: acc) r
    else readBasicLines .margin acc r
  | '\r' :: '\n' :: r => if p = .text then readBasicLines .text ('\n' :: '\r' :: acc) r
    else readBasicLines .margin acc r
  | ' ' :: r => if p = .text then readBasicLines .text (' ' :: acc) r else readBasicLines p acc r
  | '\t' :: r => if p = .text then readBasicLines .text ('\t' :: acc) r else readBasicLines p acc r
  | '"' :: '"' :: '"' :: '"' :: '"' :: r =>
    if p = .lineEnd then none else some (('"' :: '"' :: acc).reverse, r)
  | '"' :: '"' :: '"' :: '"' :: r => if p = .lineEnd then none else some (('"' :: acc).reverse, r)
  | '"' :: '"' :: '"' :: r => if p = .lineEnd then none else some (acc.reverse, r)
  | '\\' :: 'x' :: a :: b :: r => do
    if p = .lineEnd then none else readBasicLines .text ((← charOfHex? [a, b]) :: acc) r
  | '\\' :: 'u' :: a :: b :: c :: d :: r => do
    if p = .lineEnd then none else readBasicLines .text ((← charOfHex? [a, b, c, d]) :: acc) r
  | '\\' :: 'U' :: a :: b :: c :: d :: e :: f :: g :: h :: r => do
    if p = .lineEnd then none
    else readBasicLines .text ((← charOfHex? [a, b, c, d, e, f, g, h]) :: acc) r
  | '\\' :: c :: r =>
    if p = .lineEnd then none
    else if isBlank c then readBasicLines .lineEnd acc r
    else if c = '\n' then readBasicLines .margin acc r
    else if c = '\r' then
      match r with
      | '\n' :: r => readBasicLines .margin acc r
      | _ => none
    else do readBasicLines .text ((← escapeChar? c) :: acc) r
  | c :: r =>
    if p ≠ .lineEnd && c ≠ '\\' && isPlainChar c then readBasicLines .text (c :: acc) r else none

/-- Many lines without escapes. -/
def readLiteralLines (acc : List Char) : List Char → Option (List Char × List Char)
  | [] => none
  | '\'' :: '\'' :: '\'' :: '\'' :: '\'' :: r => some (('\'' :: '\'' :: acc).reverse, r)
  | '\'' :: '\'' :: '\'' :: '\'' :: r => some (('\'' :: acc).reverse, r)
  | '\'' :: '\'' :: '\'' :: r => some (acc.reverse, r)
  | '\n' :: r => readLiteralLines ('\n' :: acc) r
  | '\r' :: '\n' :: r => readLiteralLines ('\n' :: '\r' :: acc) r
  | c :: r => if isPlainChar c then readLiteralLines (c :: acc) r else none

/-- Text in any quotes, from its opening quote; `none` if there is none. -/
def readString? : List Char → Option (Option (List Char × List Char))
  | '"' :: '"' :: '"' :: r => some (readBasicLines .text [] (dropLineEnd r))
  | '"' :: r => some (readBasic [] r)
  | '\'' :: '\'' :: '\'' :: r => some (readLiteralLines [] (dropLineEnd r))
  | '\'' :: r => some (readLiteral [] r)
  | _ => none

end EdgeCache.Toml
