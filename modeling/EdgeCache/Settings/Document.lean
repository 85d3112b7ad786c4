import EdgeCache.Settings.Basic
import EdgeCache.Toml.Reader

/-!
# Settings in documents

A document gives settings in four sections. A section is a table, or an array of its values in a
fixed order. What it does not know it passes over, as long as it is a value at all.
-/

namespace EdgeCache.Toml

/-- The text of a value. -/
def Node.text? : Node → Option String
  | .string s => some s
  | _ => none

/-- A natural number below a bound. -/
def Node.natBelow? (bound : Nat) : Node → Option Nat
  | .integer n => if 0 ≤ n && decide (n < bound) then some n.toNat else none
  | _ => none

/-- A truth value. -/
def Node.flag? : Node → Option Bool
  | .boolean b => some b
  | _ => none

mutual

/-- Whether a value can be passed over: its numbers have to be representable, integers in 128
bits. -/
def Node.isReadable : Node → Bool
  | .integer n => decide (-(Nat.pow 2 127) ≤ n) && decide (n < Nat.pow 2 128)
  | .float inRange => inRange
  | .array items => areReadable items
  | .tables items => areReadable items
  | .table _ fields => fieldsAreReadable fields
  | .string _ => true
  | .boolean _ => true
  | .moment => true

/-- Whether all values can be passed over. -/
def areReadable : List Node → Bool
  | [] => true
  | v :: vs => v.isReadable && areReadable vs

/-- Whether the values of all fields can be passed over. -/
def fieldsAreReadable : List (String × Node) → Bool
  | [] => true
  | (_, v) :: fs => v.isReadable && fieldsAreReadable fs

end

end EdgeCache.Toml

namespace EdgeCache.Settings

open Toml

/-- The values of a section, each under its name or at its place; `none` if it is no section. A moment
counts as a table of parts that are not known. -/
def sectionFields? (names : List String) : Node → Option Fields
  | .table _ fields =>
    if fieldsAreReadable (fields.filter fun f => !names.contains f.1) then
      some (fields.filter fun f => names.contains f.1)
    else none
  | .array items => some (names.zip items)
  | .tables items => some (names.zip items)
  | .moment => some []
  | _ => none

/-- The fields of a section of a document; a section that is missing has none. -/
def sectionOf? (document : Fields) (name : String) (names : List String) : Option Fields :=
  match document.lookup name with
  | none => some []
  | some node => sectionFields? names node

/-- A value of the right type, or that there is none; `none` for a wrong one. -/
def value? {α : Type} (read : Node → Option α) (fields : Fields) (name : String) :
    Option (Option α) :=
  match fields.lookup name with
  | none => some none
  | some node => (read node).map some

/-- The names of the sections. -/
def sectionNames : List String := ["server", "origin", "cache", "logging"]

/-- What a document gives; `none` if a value has the wrong type or is out of range. -/
def Given.ofDocument? (document : Fields) : Option Given := do
  if !fieldsAreReadable (document.filter fun f => !sectionNames.contains f.1) then none
  let word := Node.natBelow? (Nat.pow 2 64)
  let port (n : Node) : Option UInt16 := (n.natBelow? (Nat.pow 2 16)).map Nat.toUInt16
  let server ← sectionOf? document "server" ["bind_address", "port", "route_prefix"]
  let origin ← sectionOf? document "origin" ["base_url", "timeout_secs", "user_agent"]
  let cache ← sectionOf? document "cache" ["max_entries", "ttl_secs", "sweep_interval_secs"]
  let logging ← sectionOf? document "logging" ["level", "json"]
  return {
    bindAddress := ← value? Node.text? server "bind_address"
    port := ← value? port server "port"
    routePrefix := ← value? Node.text? server "route_prefix"
    baseUrl := ← value? Node.text? origin "base_url"
    timeoutSecs := ← value? word origin "timeout_secs"
    userAgent := ← value? Node.text? origin "user_agent"
    maxEntries := ← value? word cache "max_entries"
    ttlSecs := ← value? word cache "ttl_secs"
    sweepIntervalSecs := ← value? word cache "sweep_interval_secs"
    level := ← value? Node.text? logging "level"
    json := ← value? Node.flag? logging "json" }

end EdgeCache.Settings
