import EdgeCache.Url.Host
import EdgeCache.Url.Path

/-!
# URLs

A URL with a path of segments, such as other URLs can be relative to, and its written form.
-/

namespace EdgeCache

/-- Who answers for a URL. -/
structure Url.Authority where
  /-- The user name, encoded. -/
  username : List Char
  /-- The password, encoded; empty for none. -/
  password : List Char
  host : Url.Host
  /-- The port, unless it is the one that the scheme has anyway. -/
  port : Option Nat
  deriving DecidableEq, Repr

/-- A URL, its parts encoded as they are written. -/
structure Url where
  scheme : List Char
  authority : Option Url.Authority
  path : List Url.Segment
  query : Option (List Char)
  fragment : Option (List Char)
  deriving DecidableEq, Repr

namespace Url

/-- User name and password as they are written in front of the host. -/
def Authority.userinfo (a : Authority) : List Char :=
  if a.username.isEmpty && a.password.isEmpty then []
  else a.username ++ (if a.password.isEmpty then [] else ':' :: a.password) ++ ['@']

/-- An authority as it is written. -/
def Authority.chars (a : Authority) : List Char :=
  a.userinfo ++ a.host.chars ++ (a.port.map fun p => ':' :: decimal p).getD []

/-- How the scheme treats what follows it. -/
def kind (u : Url) : Kind := .ofScheme u.scheme

/-- What is written between the scheme's colon and the path. A path that would read as an authority
is kept apart by a dot segment. -/
def lead (u : Url) : List Char :=
  match u.authority with
  | some a => '/' :: '/' :: a.chars
  | none =>
    match u.path with
    | [] :: _ :: _ => ['/', '.']
    | _ => []

/-- Everything in front of the query. -/
def beforeQuery (u : Url) : List Char := u.scheme ++ ':' :: u.lead ++ writePath u.path

/-- The written form. -/
def chars (u : Url) : List Char :=
  u.beforeQuery ++ (u.query.map ('?' :: ·)).getD [] ++ (u.fragment.map ('#' :: ·)).getD []

/-- The written form as text. -/
def text (u : Url) : String := String.ofList u.chars

/-- What a request for the URL asks its host for: path and query. -/
def target (u : Url) : String :=
  String.ofList (writePath u.path ++ (u.query.map ('?' :: ·)).getD [])

/-- Query and fragment of what is left of a text after its path. -/
def readTail (k : Kind) (cs : List Char) : Option (List Char) × Option (List Char) :=
  let query := match cs with
    | '?' :: rest => some (encode (inQuerySet k.isSpecial) (rest.takeWhile (· ≠ '#')))
    | _ => none
  let fragment := match cs.dropWhile (· ≠ '#') with
    | '#' :: rest => some (encode inFragmentSet rest)
    | _ => none
  (query, fragment)

/-- Whether a character ends a path. -/
def endsPath (c : Char) : Bool := c = '?' || c = '#'

/-- A text as it is read: without controls and blanks at its ends, and without tabs and line ends. -/
def clean (s : List Char) : List Char :=
  let isBlank (c : Char) : Bool := c ≤ ' '
  ((s.dropWhile isBlank).reverse.dropWhile isBlank).reverse.filter fun c =>
    c ≠ '\t' && c ≠ '\n' && c ≠ '\r'

/-- The URL that the relative path `./reference` leads to. A query and a fragment may follow it. -/
def below (base : Url) (reference : List Char) : Url :=
  let cs := clean ('.' :: '/' :: reference)
  let (query, fragment) := readTail base.kind (cs.dropWhile fun c => !endsPath c)
  { base with
    path := walkText base.kind (frontOf base.kind base.path) (cs.takeWhile fun c => !endsPath c)
    query
    fragment }

end Url

end EdgeCache
