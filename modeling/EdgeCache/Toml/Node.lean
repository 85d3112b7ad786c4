/-!
# Documents

What a document says: a tree of tables and values. A table remembers how it was made, since that
decides who may still add to it.
-/

namespace EdgeCache.Toml

/-- How a table came to be. -/
inductive Making where
  /-- In front of the last part of a header. -/
  | implied
  /-- In front of the last part of a key. -/
  | dotted
  /-- By a header of its own. -/
  | headed
  /-- In braces; nothing is added to it later. -/
  | inline
  deriving DecidableEq, Repr

/-- A value. -/
inductive Node where
  | string (s : String)
  | integer (n : Int)
  /-- A float, and whether it is in the range of binary64. -/
  | float (inRange : Bool)
  | boolean (b : Bool)
  /-- A date, a time or both. -/
  | moment
  | array (items : List Node)
  /-- Tables that were added by headers of one name. -/
  | tables (items : List Node)
  | table (making : Making) (fields : List (String × Node))
  deriving Inhabited

/-- The fields of a table, by name. -/
abbrev Fields := List (String × Node)

namespace Fields

/-- Sets a field; a new one goes to the end. -/
def set (fs : Fields) (key : String) (v : Node) : Fields :=
  if (fs.lookup key).isSome then fs.map fun f => if f.1 = key then (key, v) else f
  else fs ++ [(key, v)]

/-- Changes the table at the end of a path, or refuses to. Tables that are missing are made. A
path goes through the last of the tables of one name, and never into braces; a key's path does not
enter tables that have a header. -/
def within (dotted : Bool) (f : Making → Fields → Option (Making × Fields)) :
    List String → Making → Fields → Option (Making × Fields)
  | [], m, fs => f m fs
  | k :: ks, m, fs =>
    match fs.lookup k with
    | none => do
      let (m', fs') ← within dotted f ks (if dotted then .dotted else .implied) []
      return (m, fs.set k (.table m' fs'))
    | some (.table m' fs') =>
      if m' = .inline || (dotted && m' = .headed) then none
      else do
        let (m', fs') ← within dotted f ks m' fs'
        return (m, fs.set k (.table m' fs'))
    | some (.tables items) =>
      match items.getLast? with
      | some (.table m' fs') => do
        let (m', fs') ← within dotted f ks m' fs'
        return (m, fs.set k (.tables (items.dropLast ++ [.table m' fs'])))
      | _ => none
    | some _ => none

/-- Adds a field that is not there yet. A dotted key adds only to tables that dotted keys made, and a
plain key to none of these. -/
def addField (plain : Bool) (key : String) (v : Node) (m : Making) (fs : Fields) :
    Option (Making × Fields) :=
  if decide (m = .dotted) == plain || (fs.lookup key).isSome then none else some (m, fs.set key v)

/-- Adds a value under a key of one or more parts. -/
def assign (path : List String) (v : Node) (m : Making) (fs : Fields) : Option (Making × Fields) :=
  match path.getLast? with
  | none => none
  | some key => within true (addField (path.length = 1) key v) path.dropLast m fs

/-- Makes the table of a header, unless it was made before by anything but other headers' paths. -/
def openTable (key : String) (m : Making) (fs : Fields) : Option (Making × Fields) :=
  match fs.lookup key with
  | none => some (m, fs.set key (.table .headed []))
  | some (.table .implied fs') => some (m, fs.set key (.table .headed fs'))
  | some _ => none

/-- Adds a table to those of one name. -/
def appendTable (key : String) (m : Making) (fs : Fields) : Option (Making × Fields) :=
  match fs.lookup key with
  | none => some (m, fs.set key (.tables [.table .headed []]))
  | some (.tables items) => some (m, fs.set key (.tables (items ++ [.table .headed []])))
  | some _ => none

end Fields

/-- One line of a document, or more if its value needs them. -/
inductive Statement where
  | assign (path : List String) (value : Node)
  | header (path : List String)
  | arrayHeader (path : List String)

/-- A document up to some line, and the table that the next line adds to. -/
structure Draft where
  fields : Fields
  current : List String

namespace Draft

/-- Changes the table at the end of a header's path. -/
def change (d : Draft) (path : List String)
    (f : Making → Fields → Option (Making × Fields)) : Option Fields :=
  (Fields.within false f path .headed d.fields).map Prod.snd

/-- One more statement. -/
def add (d : Draft) : Statement → Option Draft
  | .assign path v => do return { d with fields := ← d.change d.current (Fields.assign path v) }
  | .header path => do
    let key ← path.getLast?
    return ⟨← d.change path.dropLast (Fields.openTable key), path⟩
  | .arrayHeader path => do
    let key ← path.getLast?
    return ⟨← d.change path.dropLast (Fields.appendTable key), path⟩

end Draft

/-- The fields that some statements give a document; `none` if two of them are at odds. -/
def Fields.ofStatements? (ss : List Statement) : Option Fields :=
  (ss.foldlM Draft.add ⟨[], []⟩).map Draft.fields

end EdgeCache.Toml
