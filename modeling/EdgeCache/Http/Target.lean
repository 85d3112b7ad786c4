/-!
# Request targets

A request line names a method and a target. Only the target's path decides who answers; the query
takes no part, and a fragment is dropped. A target that holds a character that may not stand there
names nothing.
-/

namespace EdgeCache.Http

/-- Whether a byte may stand in a method. -/
def isTokenChar (c : Char) : Bool :=
  c.isAlphanum || "!#$%&'*+-.^_`|~".toList.contains c

/-- Whether a text is a method. -/
def isMethod (s : String) : Bool := !s.isEmpty && s.toList.all isTokenChar

namespace Target

/-- The most bytes of a target. -/
def maxLength : Nat := 65534

/-- The most characters of a scheme in front of an authority. -/
def maxSchemeLength : Nat := 64

/-- Whether a character may stand in a path as it is. -/
def isPathChar (c : Char) : Bool :=
  c = '!' || ('$' ≤ c && c ≤ ';') || c = '=' || ('@' ≤ c && c ≤ '_') || ('a' ≤ c && c ≤ '~')
    || '\x7f' ≤ c || c = '"'

/-- Whether a character may stand in a query as it is. -/
def isQueryChar (c : Char) : Bool :=
  c = '!' || ('$' ≤ c && c ≤ ';') || c = '=' || '?' ≤ c

/-- The path of a target that begins with its path. -/
def path? (cs : List Char) : Option (List Char) :=
  let path := cs.takeWhile fun c => c ≠ '?' && c ≠ '#'
  let query := match cs.dropWhile fun c => c ≠ '?' && c ≠ '#' with
    | '?' :: rest => rest.takeWhile (· ≠ '#')
    | _ => []
  if path.all isPathChar && query.all isQueryChar then
    some (if path.isEmpty then ['/'] else path)
  else none

/-- Whether a character may stand in a scheme. -/
def isSchemeChar (c : Char) : Bool := c.isAlphanum || "+-.~".toList.contains c

/-- What comes after the scheme and its two slashes; `none` without a scheme. -/
def afterScheme? (cs : List Char) : Option (Except Unit (List Char)) :=
  match cs.dropWhile isSchemeChar with
  | ':' :: '/' :: '/' :: rest =>
    let n := (cs.takeWhile isSchemeChar).length
    if maxSchemeLength < n then some (.error ()) else some (.ok rest)
  | _ => none

/-- Whether a character may stand in an authority, percent sign left aside. -/
def isAuthorityChar (c : Char) : Bool :=
  c.isAlphanum || "!$&'()*+,-.:;=@[]_~".toList.contains c

/-- What has been seen of an authority. -/
structure Scan where
  colons : Nat
  opened : Bool
  closed : Bool
  percent : Bool
  /-- Whether the last character ends the user name. -/
  atEnd : Bool

/-- One more character of an authority. Colons and percent signs of a user name and colons of an
address in brackets do not count. -/
def Scan.push (s : Scan) (c : Char) : Option Scan :=
  if c = ':' then if 8 ≤ s.colons then none else some { s with colons := s.colons + 1, atEnd := false }
  else if c = '[' then
    if s.percent || s.opened then none else some { s with opened := true, atEnd := false }
  else if c = ']' then
    if !s.opened || s.closed then none
    else some { s with closed := true, colons := 0, percent := false, atEnd := false }
  else if c = '@' then some { s with colons := 0, percent := false, atEnd := true }
  else if c = '%' then some { s with percent := true, atEnd := false }
  else if isAuthorityChar c then some { s with atEnd := false }
  else none

/-- Whether a text is an authority. -/
def isAuthority (cs : List Char) : Bool :=
  match cs.foldlM Scan.push ⟨0, false, false, false, false⟩ with
  | some s => s.opened == s.closed && s.colons ≤ 1 && !s.atEnd && !s.percent
  | none => false

/-- The path that a target names: empty for a bare authority, and `*` for the server as a whole. -/
def ofChars? (cs : List Char) : Option (List Char) :=
  match cs with
  | [] => none
  | ['*'] => some ['*']
  | '/' :: _ => path? cs
  | _ =>
    let isEnd (c : Char) := c = '/' || c = '?' || c = '#'
    match afterScheme? cs with
    | some (.error ()) => none
    | some (.ok rest) =>
      let authority := rest.takeWhile fun c => !isEnd c
      if authority.isEmpty || !isAuthority authority then none
      else path? (rest.dropWhile fun c => !isEnd c)
    | none => if cs.all (fun c => !isEnd c) && isAuthority cs then some [] else none

/-- The path that a request's target names. -/
def ofText? (s : String) : Option (List Char) :=
  if maxLength < s.utf8ByteSize then none else ofChars? s.toList

end Target

end EdgeCache.Http
