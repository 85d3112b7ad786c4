import EdgeCache.Toml.Quoted
import EdgeCache.Toml.Scalar

/-!
# Reading documents

The grammar of documents. Every reader gives what it has read and what is left of the text. A
document is read statement by statement; what the statements say together is settled after that.
-/

namespace EdgeCache.Toml

/-- Whether a character may stand in a key without quotes. -/
def isKeyChar (c : Char) : Bool := c.isAlphanum || c = '-' || c = '_'

/-- Drops blanks within a line. -/
def skipBlanks (cs : List Char) : List Char := cs.dropWhile isBlank

/-- Drops blanks, line ends and comments. -/
def skipLayout (inComment : Bool) : List Char → Option (List Char)
  | [] => some []
  | '\n' :: r => skipLayout false r
  | '\r' :: '\n' :: r => skipLayout false r
  | c :: r =>
    if inComment then if isPlainChar c then skipLayout true r else none
    else if isBlank c then skipLayout false r
    else if c = '#' then skipLayout true r
    else some (c :: r)

/-- Drops the rest of a line, which may hold a comment only. -/
def endLine (inComment : Bool) : List Char → Option (List Char)
  | [] => some []
  | '\n' :: r => some r
  | '\r' :: '\n' :: r => some r
  | c :: r =>
    if inComment then if isPlainChar c then endLine true r else none
    else if isBlank c then endLine false r
    else if c = '#' then endLine true r
    else none

/-- One part of a key: bare, or in the quotes of one line. -/
def readKeyPart : List Char → Option (String × List Char)
  | '"' :: r => (readBasic [] r).map fun (s, r) => (String.ofList s, r)
  | '\'' :: r => (readLiteral [] r).map fun (s, r) => (String.ofList s, r)
  | cs =>
    let bare := cs.takeWhile isKeyChar
    if bare.isEmpty then none else some (String.ofList bare, cs.drop bare.length)

/-- A key of one or more parts with dots between them. -/
def readKey : Nat → List Char → Option (List String × List Char)
  | 0, _ => none
  | fuel + 1, cs => do
    let (part, cs) ← readKeyPart (skipBlanks cs)
    match skipBlanks cs with
    | '.' :: cs => do
      let (parts, cs) ← readKey fuel cs
      return (part :: parts, cs)
    | cs => return ([part], cs)

/-- How deep arrays and braces may be nested. -/
def maxDepth : Nat := 80

mutual

/-- A value. It uses up fuel for each value and separator inside it, and depth for each pair of
brackets around them. -/
def readValue : Nat → Nat → List Char → Option (Node × List Char)
  | 0, _, _ => none
  | fuel + 1, depth, cs =>
    match readString? cs with
    | some r => r.map fun (s, r) => (.string (String.ofList s), r)
    | none =>
      match cs, depth with
      | '[' :: r, depth + 1 => readItems fuel depth [] r
      | '\x7b' :: r, depth + 1 => readFields fuel depth [] r
      | cs, _ => do
        let (front, back) := takeScalar cs
        return (← scalar? front, back)

/-- The rest of an array, after its bracket or a comma. The items so far are kept in reverse. -/
def readItems : Nat → Nat → List Node → List Char → Option (Node × List Char)
  | 0, _, _, _ => none
  | fuel + 1, depth, acc, cs => do
    match ← skipLayout false cs with
    | ']' :: r => return (.array acc.reverse, r)
    | cs => do
      let (v, cs) ← readValue fuel depth cs
      match ← skipLayout false cs with
      | ',' :: r => readItems fuel depth (v :: acc) r
      | ']' :: r => return (.array (v :: acc).reverse, r)
      | _ => none

/-- The rest of a table in braces, after its brace or a comma. -/
def readFields : Nat → Nat → Fields → List Char → Option (Node × List Char)
  | 0, _, _, _ => none
  | fuel + 1, depth, fs, cs => do
    match ← skipLayout false cs with
    | '\x7d' :: r => return (.table .inline fs, r)
    | cs => do
      let (path, cs) ← readKey (fuel + 1) cs
      let (v, cs) ← readValue fuel depth (skipBlanks (← expect? '=' cs))
      let (_, fs) ← Fields.assign path v .inline fs
      match ← skipLayout false cs with
      | ',' :: r => readFields fuel depth fs r
      | '\x7d' :: r => return (.table .inline fs, r)
      | _ => none

end

/-- A statement that begins a line, without the rest of its line. -/
def readStatement (fuel : Nat) : List Char → Option (Statement × List Char)
  | '[' :: '[' :: r => do
    let (path, r) ← readKey fuel r
    return (.arrayHeader path, ← expect? ']' (← expect? ']' r))
  | '[' :: r => do
    let (path, r) ← readKey fuel r
    return (.header path, ← expect? ']' r)
  | cs => do
    let (path, cs) ← readKey fuel cs
    let (v, cs) ← readValue fuel maxDepth (skipBlanks (← expect? '=' cs))
    return (.assign path v, cs)

/-- The statements of a text. -/
def readStatements : Nat → List Char → Option (List Statement)
  | 0, _ => none
  | fuel + 1, cs => do
    match ← skipLayout false cs with
    | [] => return []
    | cs => do
      let (s, cs) ← readStatement (fuel + 1) cs
      return s :: (← readStatements fuel (← endLine false cs))

/-- Reads a document; a byte order mark in front of it does not count. No reader takes more steps
than there are characters, but for the last. -/
def Fields.ofText? (s : String) : Option Fields :=
  let cs := match s.toList with
    | '\ufeff' :: cs => cs
    | cs => cs
  (readStatements (2 * cs.length + 2) cs).bind Fields.ofStatements?

end EdgeCache.Toml
