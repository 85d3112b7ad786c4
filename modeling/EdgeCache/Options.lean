import EdgeCache.Settings.Basic
import EdgeCache.Text

/-!
# The command line

Options with a value may be given in a long or a short form, each once, the value in the same word
or in the next one. Words are looked at in order, so that a request for help or for the version
counts only if nothing before it is wrong.
-/

namespace EdgeCache

/-- The name of the program. -/
def programName : String := "ferrous-cdn"

/-- The version of the program. -/
def programVersion : String := "0.1.0"

/-- What the command line says. -/
structure Options where
  /-- The file with the settings. -/
  config : Option String
  overrides : Settings.Overrides
  deriving DecidableEq, Repr

namespace Options

/-- Why the program does not go on after the command line. -/
inductive Stop where
  /-- The command line is wrong. -/
  | usage
  | help
  | version
  deriving DecidableEq, Repr

/-- The options with a value. -/
inductive Name where
  | config
  | bind
  | port
  | origin
  | logLevel
  deriving DecidableEq, Repr

/-- What a word with a hyphen asks for. -/
inductive Flag where
  | value (name : Name)
  | help
  | version

/-- The long forms. -/
def longFlag? (s : List Char) : Option Flag :=
  match String.ofList s with
  | "config" => some (.value .config)
  | "bind" => some (.value .bind)
  | "port" => some (.value .port)
  | "origin" => some (.value .origin)
  | "log-level" => some (.value .logLevel)
  | "help" => some .help
  | "version" => some .version
  | _ => none

/-- The short forms. -/
def shortFlag? : Char → Option Flag
  | 'c' => some (.value .config)
  | 'b' => some (.value .bind)
  | 'p' => some (.value .port)
  | 'o' => some (.value .origin)
  | 'l' => some (.value .logLevel)
  | 'h' => some .help
  | 'V' => some .version
  | _ => none

/-- What the program tells about its command line. -/
def usage : String :=
  "Usage: " ++ programName ++ " [-c, --config <FILE>] [-b, --bind <ADDRESS>] [-p, --port <PORT>] "
    ++ "[-o, --origin <URL>] [-l, --log-level <LEVEL>] [-h, --help] [-V, --version]"

/-- No options. -/
def none : Options := ⟨.none, ⟨.none, .none, .none, .none⟩⟩

/-- A port: decimal digits, perhaps after a sign. -/
def port? (value : List Char) : Option UInt16 :=
  let (negative, ds) := match value with
    | '+' :: ds => (false, ds)
    | '-' :: ds => (true, ds)
    | ds => (false, ds)
  if ds.isEmpty then .none
  else (digitsValue? 10 ds).bind fun n =>
    if 65535 < n || (negative && n ≠ 0) then .none else some n.toUInt16

/-- The value of an option that has none yet. -/
def once {α : Type} (old : Option α) (new : α) : Except Stop (Option α) :=
  if old.isSome then .error .usage else .ok (some new)

/-- Sets an option. -/
def set (o : Options) (name : Name) (value : List Char) : Except Stop Options := do
  let text := String.ofList value
  let v := o.overrides
  match name with
  | .config => return { o with config := ← once o.config text }
  | .bind => return { o with overrides := { v with bindAddress := ← once v.bindAddress text } }
  | .origin => return { o with overrides := { v with originUrl := ← once v.originUrl text } }
  | .logLevel => return { o with overrides := { v with logLevel := ← once v.logLevel text } }
  | .port =>
    match port? value with
    | some n => return { o with overrides := { v with port := ← once v.port n } }
    | .none => throw .usage

/-- Whether a word is an option, and no value for one. -/
def isOption : List Char → Bool
  | '-' :: _ :: _ => true
  | _ => false

/-- A long form without its hyphens, cut at its equals sign. -/
def cutAtEquals (cs : List Char) : List Char × Option (List Char) :=
  match cs.dropWhile (· ≠ '=') with
  | _ :: value => (cs.takeWhile (· ≠ '='), some value)
  | [] => (cs, .none)

/-- What an option without its hyphens asks for, and the value in the same word. A value in the word
of a short form may follow an equals sign. -/
def flagOf? : List Char → Option (Flag × Option (List Char))
  | '-' :: '-' :: long =>
    let (name, value) := cutAtEquals long
    (longFlag? name).map (·, value)
  | '-' :: short :: rest =>
    let value := match rest with
      | [] => .none
      | '=' :: value => some value
      | value => some value
    (shortFlag? short).map fun
      | .value name => (.value name, value)
      | flag => (flag, .none)
  | _ => .none

/-- Reads words in order. An option may wait for its value. -/
def read (o : Options) (waiting : Option Name) : List (List Char) → Except Stop Options
  | [] => if waiting.isSome then .error .usage else .ok o
  | word :: rest =>
    match waiting with
    | some name => if isOption word then .error .usage else do read (← o.set name word) .none rest
    | .none =>
      if word = ['-', '-'] then if rest.isEmpty then .ok o else .error .usage
      else match flagOf? word with
        | .none => .error .usage
        | some (.help, value) => .error (if value.isSome then .usage else .help)
        | some (.version, value) => .error (if value.isSome then .usage else .version)
        | some (.value name, some value) => do read (← o.set name value) .none rest
        | some (.value name, .none) => read o (some name) rest

/-- The options of a command line. -/
def ofWords (words : List String) : Except Stop Options :=
  read none .none (words.map String.toList)

end Options

end EdgeCache
