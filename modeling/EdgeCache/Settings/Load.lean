import EdgeCache.Settings.Document
import EdgeCache.Settings.File
import EdgeCache.Settings.Rules

/-!
# Loading settings

Defaults, then a document, then the command line: each source replaces what the ones before it gave.
Only the outcome has to satisfy the rules.
-/

namespace EdgeCache.Settings

/-- Why there are no settings. -/
inductive LoadError where
  | unreadable (path : String) (fault : FileFault)
  /-- The file holds no document, or one with a wrong value. -/
  | malformed
  | invalid (violation : Violation)
  deriving DecidableEq, Repr

/-- What went wrong, in words. -/
def LoadError.message : LoadError → String
  | unreadable path fault => s!"Failed to read config file {path}: {fault.message}"
  | malformed => "Failed to parse config"
  | invalid violation => "Invalid configuration: " ++ violation.message

/-- Settings from the text of a document. -/
def ofText (text : String) : Except LoadError Settings :=
  match (Toml.Fields.ofText? text).bind Given.ofDocument? with
  | some given => .ok (default.update given)
  | none => .error .malformed

/-- Settings from what reading a file gave. -/
def ofFile (path : String) (content : Except FileFault ByteArray) : Except LoadError Settings :=
  match content with
  | .error fault => .error (.unreadable path fault)
  | .ok bytes =>
    match String.fromUTF8? bytes with
    | none => .error (.unreadable path .notUtf8)
    | some text => ofText text

/-- Settings from a file, if one is named, and a command line, before any rule is tried. -/
def load (read : String → Except FileFault ByteArray) (path? : Option String) (o : Overrides) :
    Except LoadError Settings :=
  match path? with
  | none => .ok (default.update o.given)
  | some path => (ofFile path (read path)).map fun s => s.update o.given

/-- Settings that satisfy the rules. -/
def loadValid (read : String → Except FileFault ByteArray) (path? : Option String)
    (o : Overrides) : Except LoadError Settings := do
  let s ← load read path? o
  (s.check).mapError .invalid
  return s

end EdgeCache.Settings
