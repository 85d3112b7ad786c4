import EdgeCache.Url.Basic

/-!
# Reading URLs
-/

namespace EdgeCache.Url

/-- A text that has been read. -/
inductive Reading where
  | url (url : Url)
  /-- A URL without segments, to which nothing can be relative: its written form. -/
  | flat (chars : List Char)

/-- The scheme in lower case, and what follows its colon. -/
def readScheme (cs : List Char) : Option (List Char × List Char) :=
  let isSchemeChar (c : Char) : Bool := c.isAlphanum || c = '+' || c = '-' || c = '.'
  if cs.head?.any Char.isAlpha then
    match cs.dropWhile isSchemeChar with
    | ':' :: rest => some ((cs.takeWhile isSchemeChar).map Char.toLower, rest)
    | _ => none
  else none

/-- The port that a scheme has anyway. -/
def defaultPort (scheme : List Char) : Option Nat :=
  match String.ofList scheme with
  | "http" => some 80
  | "ws" => some 80
  | "https" => some 443
  | "wss" => some 443
  | "ftp" => some 21
  | _ => none

/-- Whether a character ends an authority. -/
def endsAuthority (k : Kind) (c : Char) : Bool := k.isSlash c || endsPath c

/-- A text cut at the last of its at signs. -/
def cutAtSign (cs : List Char) : Option (List Char × List Char) :=
  match cs.reverse.dropWhile (· ≠ '@') with
  | [] => none
  | _ :: front => some (front.reverse, (cs.reverse.takeWhile (· ≠ '@')).reverse)

/-- User name and password, encoded. -/
def readUserinfo (cs : List Char) : List Char × List Char :=
  let name := cs.takeWhile (· ≠ ':')
  let password := (cs.dropWhile (· ≠ ':')).drop 1
  (encode inUserinfoSet name, encode inUserinfoSet password)

/-- The host in front of the colon of the port; colons in brackets are part of it. -/
def takeHost (inside : Bool) : List Char → List Char × List Char
  | [] => ([], [])
  | c :: cs =>
    if c = ':' && !inside then ([], c :: cs)
    else
      let inside := if c = '[' then true else if c = ']' then false else inside
      let (host, rest) := takeHost inside cs
      (c :: host, rest)

/-- The number of a port; nothing for no digits. A backslash ends it whatever the scheme. -/
def readPort (cs : List Char) : Except Error (Option Nat × List Char) :=
  let digits := cs.takeWhile Char.isDigit
  let rest := cs.drop digits.length
  match digitsValue? 10 digits with
  | none => .error .invalidPort
  | some n =>
    if 65535 < n then .error .invalidPort
    else match rest with
      | [] => .ok (if digits.isEmpty then none else some n, [])
      | c :: _ =>
        if c = '/' || c = '\\' || endsPath c then
          .ok (if digits.isEmpty then none else some n, rest)
        else .error .invalidPort

/-- The host of a scheme. Only schemes without rules of their own may go without one. -/
def readHost (k : Kind) (cs : List Char) : Except Error Host :=
  if k.isSpecial then if cs.isEmpty then .error .emptyHost else Host.read cs
  else Host.readPlain cs

/-- The authority at the start of a text, and what follows it. -/
def readAuthority (scheme : List Char) (cs : List Char) : Except Error (Authority × List Char) := do
  let k := Kind.ofScheme scheme
  let front := cs.takeWhile fun c => !endsAuthority k c
  let back := cs.dropWhile fun c => !endsAuthority k c
  let (userinfo, hostPort) := (cutAtSign front).getD ([], front)
  if (cutAtSign front).isSome && userinfo.isEmpty && hostPort.isEmpty && !back.isEmpty then
    throw .emptyHost
  let (username, password) := readUserinfo userinfo
  let (hostText, afterHost) := takeHost false hostPort
  let host ← readHost k hostText
  let isEmpty := host = .domain []
  if isEmpty && !afterHost.isEmpty then throw .emptyHost
  let (port, rest) ← match afterHost with
    | _ :: digits => readPort (digits ++ back)
    | [] => pure (none, back)
  let a : Authority := ⟨username, password, host, port.filter (some · ≠ defaultPort scheme)⟩
  if isEmpty && !a.userinfo.isEmpty then throw .emptyHost
  return (a, rest)

/-- The URL with the given authority and the path, query and fragment that follow it. A special
scheme always has a path. -/
def withPath (scheme : List Char) (authority : Option Authority) (cs : List Char) : Url :=
  let k := Kind.ofScheme scheme
  let text := cs.takeWhile fun c => !endsPath c
  let tail := cs.dropWhile fun c => !endsPath c
  let (query, fragment) := readTail k tail
  let path := match text with
    | [] => if k.isSpecial then walkText k [] [] else []
    | c :: rest => if k.isSlash c then walkText k [] rest else walkText k [] text
  ⟨scheme, authority, path, query, fragment⟩

/-- A URL whose scheme has been read, from behind the slashes in front of its authority. -/
def readAfterSlashes (scheme : List Char) (cs : List Char) : Except Error Url := do
  let (a, rest) ← readAuthority scheme cs
  return withPath scheme (some a) rest

/-- A file's authority, which has no more than a host. -/
def fileAuthority (host : List Char) : Authority := ⟨[], [], .domain host, none⟩

/-- Whether a drive letter is among the segments of a path. Such a file is local. -/
def namesDrive (cs : List Char) : Bool :=
  (partsAt Kind.file.isSlash (cs.takeWhile fun c => !endsPath c)).any isDrive

/-- A URL of the scheme `file`, from behind its colon. -/
def readFile (cs : List Char) : Except Error Url :=
  let scheme := "file".toList
  let slash := Kind.file.isSlash
  match cs with
  | a :: b :: rest =>
    if slash a && slash b then
      let host := rest.takeWhile fun c => !endsAuthority .file c
      let back := rest.dropWhile fun c => !endsAuthority .file c
      if host.isEmpty then .ok (withPath scheme (some (fileAuthority [])) ('/' :: back))
      else if isDrive host then .ok (withPath scheme (some (fileAuthority [])) ('/' :: rest))
      else match Host.read host with
        | .error e => .error e
        | .ok h =>
          if h = .domain "localhost".toList then
            .ok (withPath scheme (some (fileAuthority [])) ('/' :: back))
          else
            let h := if namesDrive back then .domain [] else h
            .ok (withPath scheme (some ⟨[], [], h, none⟩) back)
    else .ok (withPath scheme (some (fileAuthority [])) cs)
  | _ => .ok (withPath scheme (some (fileAuthority [])) cs)

/-- A URL whose scheme has no rules of its own, from behind its colon. -/
def readOther (scheme : List Char) (cs : List Char) : Except Error Reading :=
  match cs with
  | '/' :: '/' :: rest => (readAfterSlashes scheme rest).map .url
  | '/' :: rest => .ok (.url (withPath scheme none ('/' :: rest)))
  | _ =>
    let (query, fragment) := readTail .other (cs.dropWhile fun c => !endsPath c)
    .ok (.flat (scheme ++ ':' :: encode inControlSet (cs.takeWhile fun c => !endsPath c)
      ++ (query.map ('?' :: ·)).getD [] ++ (fragment.map ('#' :: ·)).getD []))

/-- Reads a URL that is relative to nothing. -/
def read (s : String) : Except Error Reading :=
  match readScheme (clean s.toList) with
  | none => .error .relative
  | some (scheme, rest) =>
    match Kind.ofScheme scheme with
    | .file => (readFile rest).map .url
    | .web => (readAfterSlashes scheme (rest.dropWhile Kind.web.isSlash)).map .url
    | .other => readOther scheme rest

end EdgeCache.Url
