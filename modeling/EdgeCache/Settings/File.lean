import EdgeCache.Text

/-!
# Files

What reading a file by its name gives on a system with some files and directories.
-/

namespace EdgeCache

/-- Why a file cannot be read. -/
inductive FileFault where
  | missing
  | notDirectory
  | isDirectory
  | nameTooLong
  | nulInName
  | notUtf8
  /-- What the system says otherwise. -/
  | system (text : String)
  deriving DecidableEq, Repr

/-- What the system says. -/
def FileFault.message : FileFault → String
  | missing => "No such file or directory (os error 2)"
  | notDirectory => "Not a directory (os error 20)"
  | isDirectory => "Is a directory (os error 21)"
  | nameTooLong => "File name too long (os error 36)"
  | nulInName => "file name contained an unexpected NUL byte"
  | notUtf8 => "stream did not contain valid UTF-8"
  | system text => text

/-- The fault that a system numbers so. -/
def FileFault.ofNumber? : Nat → Option FileFault
  | 2 => some missing
  | 20 => some notDirectory
  | 21 => some isDirectory
  | 36 => some nameTooLong
  | _ => none

/-- A place in the tree of files: whether it is named from the root, and the names on the way. -/
structure FileLocation where
  rooted : Bool
  names : List String
  deriving DecidableEq, Repr

namespace FileLocation

/-- The place that a name stands for; a dot stands for where it is. -/
def of (path : String) : FileLocation where
  rooted := path.toList.head? = some '/'
  names := ((partsAt (· = '/') path.toList).map String.ofList).filter fun n => n ≠ "" && n ≠ "."

/-- The directory that a place is in; the root is in itself, and what is above the place that names
start from is told by two dots. -/
def parent (p : FileLocation) : FileLocation :=
  if !p.rooted && p.names.all (· = "..") then { p with names := p.names ++ [".."] }
  else { p with names := p.names.dropLast }

end FileLocation

/-- The files and directories of a system. -/
structure FileSystem where
  files : List (FileLocation × ByteArray)
  directories : List FileLocation

namespace FileSystem

/-- The most bytes of a name, its end mark included. -/
def maxPath : Nat := 4096

/-- The most bytes of one name on the way. -/
def maxName : Nat := 255

/-- Goes from one place to the next by name. Two dots go up, and there is always something above. -/
def find (s : FileSystem) (place : FileLocation) : List String → Except FileFault FileLocation
  | [] => .ok place
  | n :: ns =>
    if (s.files.lookup place).isSome then .error .notDirectory
    else if n = ".." then s.find place.parent ns
    else if maxName < n.utf8ByteSize then .error .nameTooLong
    else
      let next : FileLocation := { place with names := place.names ++ [n] }
      if (s.files.lookup next).isSome || s.directories.contains next then s.find next ns
      else .error .missing

/-- The bytes of a file. -/
def read (s : FileSystem) (path : String) : Except FileFault ByteArray :=
  if path.toList.contains '\x00' then .error .nulInName
  else if path = "" then .error .missing
  else if maxPath ≤ path.utf8ByteSize then .error .nameTooLong
  else
    let p := FileLocation.of path
    match s.find ⟨p.rooted, []⟩ p.names with
    | .error e => .error e
    | .ok place =>
      match s.files.lookup place with
      | none => .error .isDirectory
      | some bytes =>
        if path.toList.getLast? = some '/' then .error .notDirectory else .ok bytes

end FileSystem

end EdgeCache
