import EdgeCache.Url.Ip

/-!
# Paths

A path is walked segment by segment: one dot stays where it is, two dots go up, and everything else
goes down. Dots may be percent-encoded. The schemes of the web take a backslash for a slash.
-/

namespace EdgeCache.Url

/-- How a scheme treats what follows it. -/
inductive Kind where
  /-- The schemes of the web: `http`, `https`, `ws`, `wss` and `ftp`. -/
  | web
  | file
  | other
  deriving DecidableEq, Repr

namespace Kind

/-- The kind of a scheme. -/
def ofScheme (scheme : List Char) : Kind :=
  let s := String.ofList scheme
  if s = "file" then file
  else if ["http", "https", "ws", "wss", "ftp"].contains s then web
  else other

/-- Whether a backslash counts as a slash. -/
def isSpecial : Kind → Bool
  | web => true
  | file => true
  | other => false

/-- Whether a character separates segments. -/
def isSlash (k : Kind) (c : Char) : Bool := c = '/' || (k.isSpecial && c = '\\')

end Kind

/-- The text between two slashes, as it is written. -/
abbrev Segment := List Char

/-- A dot and what is left after it; the dot may be percent-encoded. -/
def dropDot? : Segment → Option Segment
  | '.' :: rest => some rest
  | '%' :: '2' :: 'e' :: rest => some rest
  | '%' :: '2' :: 'E' :: rest => some rest
  | _ => none

/-- Whether a segment stays where it is. -/
def isSingleDot (s : Segment) : Bool := dropDot? s = some []

/-- Whether a segment goes up. -/
def isDoubleDot (s : Segment) : Bool := (dropDot? s).bind dropDot? = some []

/-- Whether a segment is a drive letter, with its colon or with a bar for it. -/
def isDrive : Segment → Bool
  | [c, m] => c.isAlpha && (m = ':' || m = '|')
  | _ => false

/-- Whether a segment is a drive letter with its colon. -/
def isNormalDrive : Segment → Bool
  | [c, m] => c.isAlpha && m = ':'
  | _ => false

/-- Whether a segment begins with a drive letter that ends there. Such a segment is never left. -/
def beginsWithDrive : Segment → Bool
  | c :: m :: rest =>
    c.isAlpha && (m = ':' || m = '|') && (rest.isEmpty || rest.head? = some '\\')
  | _ => false

/-- Goes up: the last segment is left, if there is one and it is no drive. -/
def ascend (front : List Segment) : List Segment :=
  match front.getLast? with
  | some s => if beginsWithDrive s then front else front.dropLast
  | none => front

/-- The segments that a proper segment adds below some others. In files a drive letter gets its
colon, and one at the root is parted from what follows it. -/
def descend (k : Kind) (front : List Segment) (s : Segment) : List Segment :=
  match k with
  | .file =>
    if isDrive s then front ++ [s.take 1 ++ [':']]
    else if front.isEmpty && isNormalDrive (s.take 2) then [s.take 2, s.drop 2]
    else front ++ [s]
  | _ => front ++ [s]

/-- Walks some segments from those in front. The last segment is where the path ends; if it only stays
or goes up, the path ends with a slash. -/
def walk (k : Kind) (front : List Segment) : List Segment → List Segment
  | [] => front
  | [s] =>
    if isDoubleDot s then ascend front ++ [[]]
    else if isSingleDot s then front ++ [[]]
    else descend k front s
  | s :: rest =>
    if isDoubleDot s then walk k (ascend front) rest
    else if isSingleDot s then walk k front rest
    else walk k (descend k front s) rest

/-- The segments of a text, encoded as they stand in a path. -/
def segmentsOf (k : Kind) (cs : List Char) : List Segment :=
  (partsAt k.isSlash cs).map (encode inPathSet)

/-- The path of a file has no empty segments in front. -/
def dropEmptyFront (path : List Segment) : List Segment :=
  match path.dropWhile List.isEmpty with
  | [] => [[]]
  | path => path

/-- The path that a text leads to from the segments in front of it. -/
def walkText (k : Kind) (front : List Segment) (cs : List Char) : List Segment :=
  let path := walk k front (segmentsOf k cs)
  if k = .file then dropEmptyFront path else path

/-- A path as it is written: every segment after a slash. -/
def writePath (path : List Segment) : List Char := path.flatMap ('/' :: ·)

/-- The segments in front of the last one, which a relative path replaces. In files a drive is not
replaced. -/
def frontOf (k : Kind) (path : List Segment) : List Segment :=
  match path.getLast? with
  | some s => if k = .file && isNormalDrive s then path else path.dropLast
  | none => []

end EdgeCache.Url
