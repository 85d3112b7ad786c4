import EdgeCache.Proofs.Keyed
import EdgeCache.Settings.Document
import Mathlib.Algebra.Group.Int.Defs
import Mathlib.Algebra.Group.Nat.Defs

/-!
# What documents give

A document is read section by section, and each section value by value. Here every setting is looked
up on its own: it has a section, a name and a place there, and a kind of values that it takes. A
document fits if whatever it gives for a setting is taken, and everything else can be passed over.
-/

namespace EdgeCache

namespace Toml.Node

/-- A value that can be passed over. -/
inductive Representable : Node → Prop where
  | string {s} :
    Representable (.string s)
  | integer {n : Int} :
    -(2 ^ 127) ≤ n →
    n < 2 ^ 128 →
    Representable (.integer n)
  | float :
    Representable (.float true)
  | boolean {b} :
    Representable (.boolean b)
  | moment :
    Representable .moment
  | array {items} :
    (∀ v ∈ items, Representable v) →
    Representable (.array items)
  | tables {items} :
    (∀ v ∈ items, Representable v) →
    Representable (.tables items)
  | table {making fields} :
    (∀ f ∈ fields, Representable f.2) →
    Representable (.table making fields)

mutual

/-- What the reader passes over is what can be passed over. -/
lemma isReadable_iff : ∀ node : Node, node.isReadable = true ↔ node.Representable
  | .string _ => ⟨fun _ => .string, fun _ => rfl⟩
  | .integer n => by
    rw [isReadable, Bool.and_eq_true_iff, decide_eq_true_iff, decide_eq_true_iff]
    constructor
    · rintro ⟨low, high⟩
      exact .integer low high
    · intro fits
      cases fits with
      | integer low high => exact ⟨low, high⟩
  | .float inRange => by
    rw [isReadable]
    constructor
    · rintro rfl
      exact .float
    · rintro ⟨⟩
      rfl
  | .boolean _ => ⟨fun _ => .boolean, fun _ => rfl⟩
  | .moment => ⟨fun _ => .moment, fun _ => rfl⟩
  | .array items => by
    rw [isReadable, areReadable_iff]
    constructor
    · exact .array
    · intro fits
      cases fits with
      | array all => exact all
  | .tables items => by
    rw [isReadable, areReadable_iff]
    constructor
    · exact .tables
    · intro fits
      cases fits with
      | tables all => exact all
  | .table _ fields => by
    rw [isReadable, fieldsAreReadable_iff]
    constructor
    · exact .table
    · intro fits
      cases fits with
      | table all => exact all

lemma areReadable_iff : ∀ items, areReadable items = true ↔ ∀ v ∈ items, v.Representable
  | [] => ⟨fun _ => List.forall_mem_nil _, fun _ => rfl⟩
  | v :: vs => by
    rw [areReadable, Bool.and_eq_true_iff, isReadable_iff v, areReadable_iff vs, List.forall_mem_cons]

/-- So it is with the fields of a table. -/
lemma fieldsAreReadable_iff :
    ∀ fields, fieldsAreReadable fields = true ↔ ∀ f ∈ fields, f.2.Representable
  | [] => ⟨fun _ => List.forall_mem_nil _, fun _ => rfl⟩
  | (name, v) :: fs => by
    rw [fieldsAreReadable, Bool.and_eq_true_iff, isReadable_iff v, fieldsAreReadable_iff fs,
      List.forall_mem_cons]

end

/-- What can be a section with values of some names: a table, an array of the values in order, or a
moment, which has none of them. -/
inductive IsSection (names : List String) : Node → Prop where
  | table {making fields} :
    (∀ f ∈ fields, f.1 ∉ names → f.2.Representable) →
    IsSection names (.table making fields)
  | array {items} :
    IsSection names (.array items)
  | tables {items} :
    IsSection names (.tables items)
  | moment :
    IsSection names .moment

/-- What a section gives for a name, which is at a place among those of the section. -/
def at? (name : String) (place : Nat) : Node → Option Node
  | .table _ fields => fields.lookup name
  | .array items => items[place]?
  | .tables items => items[place]?
  | _ => none

end Toml.Node

namespace Settings

open Toml

/-! ## Sections -/

section

variable {names : List String} {node : Node} {fs document : Fields} {name part : String} {place : Nat}

/-- Values in order are found at the places of their names. -/
lemma lookup_zip {items : List Node} (nodup : names.Nodup) (here : names[place]? = some name) :
    (names.zip items).lookup name = items[place]? := by
  induction names generalizing items place with
  | nil => cases here
  | cons n names ih =>
    obtain ⟨fresh, nodup⟩ := List.nodup_cons.1 nodup
    cases items with
    | nil => rfl
    | cons v items =>
      rw [List.zip_cons_cons, List.lookup_cons]
      cases place with
      | zero =>
        cases here
        rw [beq_self_eq_true]
        rfl
      | succ place =>
        -- The name is not the first one as well, for no name is there twice.
        have later : name ∈ names := List.mem_of_getElem? here
        have other : name ≠ n := fun eq => fresh (eq ▸ later)
        rw [beq_false_of_ne other]
        exact ih nodup here

/-- A value has fields to read if it can be a section. -/
lemma sectionFields?_iff : (∃ fs, sectionFields? names node = some fs) ↔ node.IsSection names := by
  cases node with
  | table making fields =>
    have known : fieldsAreReadable (fields.filter fun f => !names.contains f.1) = true ↔
        ∀ f ∈ fields, f.1 ∉ names → f.2.Representable := by
      simp [Node.fieldsAreReadable_iff, List.mem_filter]
    constructor
    · rintro ⟨fs, given⟩
      exact .table (known.1 (Option.ite_none_right_eq_some.1 given).1)
    · rintro ⟨fits⟩
      exact ⟨_, if_pos (known.2 fits)⟩
  | array items => exact ⟨fun _ => .array, fun _ => ⟨_, rfl⟩⟩
  | tables items => exact ⟨fun _ => .tables, fun _ => ⟨_, rfl⟩⟩
  | moment => exact ⟨fun _ => .moment, fun _ => ⟨_, rfl⟩⟩
  | string s => exact ⟨nofun, nofun⟩
  | integer n => exact ⟨nofun, nofun⟩
  | float inRange => exact ⟨nofun, nofun⟩
  | boolean b => exact ⟨nofun, nofun⟩

/-- A field is found under its name in a table, and at its place in an array. -/
lemma lookup_sectionFields? (given : sectionFields? names node = some fs) (nodup : names.Nodup)
    (here : names[place]? = some name) : fs.lookup name = node.at? name place := by
  cases node with
  | table making fields =>
    obtain rfl := Option.some.inj (Option.ite_none_right_eq_some.1 given).2
    apply lookup_filter (p := fun n => names.contains n)
    exact List.contains_iff_mem.2 (List.mem_of_getElem? here)
  | array items =>
    cases given
    exact lookup_zip nodup here
  | tables items =>
    cases given
    exact lookup_zip nodup here
  | moment =>
    cases given
    rfl
  | string s => cases given
  | integer n => cases given
  | float inRange => cases given
  | boolean b => cases given

/-- A section can be read if it is missing, or given by what can be one. -/
lemma sectionOf?_iff :
    (∃ fs, sectionOf? document part names = some fs) ↔
      ∀ node, document.lookup part = some node → node.IsSection names := by
  rw [sectionOf?]
  cases document.lookup part with
  | none => exact ⟨fun _ => nofun, fun _ => ⟨[], rfl⟩⟩
  | some node =>
    refine sectionFields?_iff.trans ⟨?_, fun all => all node rfl⟩
    rintro fits _ ⟨⟩
    exact fits

/-- A field of a section is the one that the document has there. -/
lemma lookup_sectionOf? (given : sectionOf? document part names = some fs) (nodup : names.Nodup)
    (here : names[place]? = some name) :
    fs.lookup name = (document.lookup part).bind (·.at? name place) := by
  rw [sectionOf?] at given
  cases h : document.lookup part with
  | none =>
    rw [h] at given
    cases given
    rfl
  | some node =>
    rw [h] at given
    exact lookup_sectionFields? given nodup here

end

/-! ## Settings one by one -/

/-- The kinds of values. -/
inductive Kind where
  | text
  | port
  | number
  | flag

namespace Kind

/-- The values of a kind. -/
@[reducible] def Value : Kind → Type
  | text => String
  | port => UInt16
  | number => Nat
  | flag => Bool

/-- What stands in a document for a value of a kind. -/
inductive Takes : (κ : Kind) → Node → κ.Value → Prop where
  | text {s : String} :
    Takes .text (.string s) s
  | port {n : Nat} :
    n < 2 ^ 16 →
    Takes .port (.integer n) n.toUInt16
  | number {n : Nat} :
    n < 2 ^ 64 →
    Takes .number (.integer n) n
  | flag {b : Bool} :
    Takes .flag (.boolean b) b

/-- The reader of a kind. -/
def read : (κ : Kind) → Node → Option κ.Value
  | text => Node.text?
  | port => fun node => (node.natBelow? (Nat.pow 2 16)).map Nat.toUInt16
  | number => Node.natBelow? (Nat.pow 2 64)
  | flag => Node.flag?

/-- Only an integer within its bound is a number. -/
lemma natBelow?_iff {bound n : Nat} {node : Node} :
    node.natBelow? bound = some n ↔ n < bound ∧ node = .integer n := by
  cases node with
  | integer m =>
    simp only [Node.natBelow?, Option.ite_none_right_eq_some, Bool.and_eq_true, decide_eq_true_eq,
      Option.some.injEq, Node.integer.injEq]
    omega
  | _ => exact ⟨nofun, fun h => nomatch h.2⟩

/-- A kind reads the values that it takes. -/
lemma read_iff {κ : Kind} {node : Node} {v : κ.Value} : κ.read node = some v ↔ κ.Takes node v := by
  constructor
  · intro h
    cases κ with
    | text =>
      cases node with
      | string s =>
        cases h
        exact .text
      | _ => cases h
    | port =>
      obtain ⟨n, found, rfl⟩ := Option.map_eq_some_iff.1 h
      obtain ⟨small, rfl⟩ := natBelow?_iff.1 found
      exact .port small
    | number =>
      obtain ⟨small, rfl⟩ := natBelow?_iff.1 h
      exact .number small
    | flag =>
      cases node with
      | boolean b =>
        cases h
        exact .flag
      | _ => cases h
  · intro takes
    cases takes with
    | text => rfl
    | port small =>
      rw [read, Option.map_eq_some_iff]
      exact ⟨_, natBelow?_iff.2 ⟨small, rfl⟩, rfl⟩
    | number small =>
      rw [read, natBelow?_iff]
      exact ⟨small, rfl⟩
    | flag => rfl

end Kind

/-- The settings, by the kinds of their values. -/
inductive Item : Kind → Type where
  | bindAddress : Item .text
  | port : Item .port
  | routePrefix : Item .text
  | baseUrl : Item .text
  | timeoutSecs : Item .number
  | userAgent : Item .text
  | maxEntries : Item .number
  | ttlSecs : Item .number
  | sweepIntervalSecs : Item .number
  | level : Item .text
  | json : Item .flag

/-- The sections of a document. -/
inductive Section where
  | server
  | origin
  | cache
  | logging

namespace Section

/-- The name of a section. -/
def title : Section → String
  | server => "server"
  | origin => "origin"
  | cache => "cache"
  | logging => "logging"

/-- The names of the values of a section, in order. -/
def names : Section → List String
  | server => ["bind_address", "port", "route_prefix"]
  | origin => ["base_url", "timeout_secs", "user_agent"]
  | cache => ["max_entries", "ttl_secs", "sweep_interval_secs"]
  | logging => ["level", "json"]

/-- Every section has a name of its own. -/
lemma title_mem : ∀ p : Section, p.title ∈ sectionNames
  | server => by decide
  | origin => by decide
  | cache => by decide
  | logging => by decide

end Section

namespace Item

variable {κ : Kind}

/-- The section of a setting. -/
def home : Item κ → Section
  | bindAddress | port | routePrefix => .server
  | baseUrl | timeoutSecs | userAgent => .origin
  | maxEntries | ttlSecs | sweepIntervalSecs => .cache
  | level | json => .logging

/-- The name of a setting in its section. -/
def name : Item κ → String
  | bindAddress => "bind_address"
  | port => "port"
  | routePrefix => "route_prefix"
  | baseUrl => "base_url"
  | timeoutSecs => "timeout_secs"
  | userAgent => "user_agent"
  | maxEntries => "max_entries"
  | ttlSecs => "ttl_secs"
  | sweepIntervalSecs => "sweep_interval_secs"
  | level => "level"
  | json => "json"

/-- The place of a setting in its section. -/
def place : Item κ → Nat
  | bindAddress | baseUrl | maxEntries | level => 0
  | port | timeoutSecs | ttlSecs | json => 1
  | routePrefix | userAgent | sweepIntervalSecs => 2

/-- What a document gives for a setting. -/
def node? (i : Item κ) (document : Fields) : Option Node :=
  (document.lookup i.home.title).bind (·.at? i.name i.place)

/-- What a source of settings gives for one of them. -/
def of : {κ : Kind} → Item κ → Given → Option κ.Value
  | _, bindAddress, g => g.bindAddress
  | _, port, g => g.port
  | _, routePrefix, g => g.routePrefix
  | _, baseUrl, g => g.baseUrl
  | _, timeoutSecs, g => g.timeoutSecs
  | _, userAgent, g => g.userAgent
  | _, maxEntries, g => g.maxEntries
  | _, ttlSecs, g => g.ttlSecs
  | _, sweepIntervalSecs, g => g.sweepIntervalSecs
  | _, level, g => g.level
  | _, json, g => g.json

/-- What a document gives for a setting, as a value that it takes. -/
inductive Gives (i : Item κ) (document : Fields) : Option κ.Value → Prop where
  | nothing :
    i.node? document = none →
    Gives i document none
  | value {node : Node} {v : κ.Value} :
    i.node? document = some node →
    κ.Takes node v →
    Gives i document (some v)

variable {i : Item κ} {v? : Option κ.Value} {fs document : Fields}

/-- What is given for a setting and is there is a value that it takes. -/
lemma Gives.takes {node : Node} (gives : i.Gives document v?) (there : i.node? document = some node) :
    ∃ v, κ.Takes node v := by
  cases gives with
  | nothing absent =>
    rw [there] at absent
    cases absent
  | value found takes =>
    obtain rfl := Option.some.inj (there.symm.trans found)
    exact ⟨_, takes⟩

/-- A setting is read as what the document gives for it. -/
lemma value?_iff (found : fs.lookup i.name = i.node? document) :
    value? κ.read fs i.name = some v? ↔ i.Gives document v? := by
  rw [value?, found]
  cases h : i.node? document with
  | none =>
    constructor
    · rintro ⟨⟩
      exact .nothing h
    · intro gives
      cases gives with
      | nothing => rfl
      | value there =>
        rw [h] at there
        cases there
  | some node =>
    rw [Option.map_eq_some_iff]
    constructor
    · rintro ⟨v, read, rfl⟩
      exact .value h (Kind.read_iff.1 read)
    · intro gives
      cases gives with
      | nothing absent =>
        rw [h] at absent
        cases absent
      | value there takes =>
        obtain rfl := Option.some.inj (h.symm.trans there)
        exact ⟨_, Kind.read_iff.2 takes, rfl⟩

/-- Every setting has its name at its place in its section. -/
lemma listed (i : Item κ) : i.home.names.Nodup ∧ i.home.names[i.place]? = some i.name := by
  cases i <;> decide

/-- A setting is read from its section. -/
lemma gives_iff (given : sectionOf? document i.home.title i.home.names = some fs) :
    value? κ.read fs i.name = some v? ↔ i.Gives document v? := by
  obtain ⟨nodup, here⟩ := i.listed
  exact value?_iff (lookup_sectionOf? given nodup here)

end Item

/-- A document in which every setting takes what it is given, and the rest can be passed over. -/
structure Fits (document : Fields) : Prop where
  others : ∀ f ∈ document, (∀ p : Section, f.1 ≠ p.title) → f.2.Representable
  sections : ∀ (p : Section) node, document.lookup p.title = some node → node.IsSection p.names
  items : ∀ {κ : Kind} (i : Item κ) node, i.node? document = some node → ∃ v, κ.Takes node v

/-- A document that fits gives a value for each setting, or nothing. -/
lemma Fits.gives {document : Fields} (fits : Fits document) {κ : Kind} (i : Item κ) :
    ∃ v?, i.Gives document v? := by
  cases h : i.node? document with
  | none => exact ⟨none, .nothing h⟩
  | some node =>
    obtain ⟨v, takes⟩ := fits.items i node h
    exact ⟨some v, .value h takes⟩

namespace Given

variable {document : Fields} {g : Given}

/-- What is in no section is passed over if it can be. -/
lemma others_iff :
    fieldsAreReadable (document.filter fun f => !sectionNames.contains f.1) = true ↔
      ∀ f ∈ document, (∀ p : Section, f.1 ≠ p.title) → f.2.Representable := by
  have unknown (n : String) : (!sectionNames.contains n) = true ↔ ∀ p : Section, n ≠ p.title := by
    rw [Bool.not_eq_true', ← Bool.not_eq_true, List.contains_iff_mem]
    constructor
    · rintro absent p rfl
      exact absent p.title_mem
    · intro apart there
      simp only [sectionNames, List.mem_cons, List.not_mem_nil, or_false] at there
      rcases there with eq | eq | eq | eq
      · exact apart .server eq
      · exact apart .origin eq
      · exact apart .cache eq
      · exact apart .logging eq
  simp only [Node.fieldsAreReadable_iff, List.mem_filter, unknown, and_imp]

/-- What is given by a document is what it gives for each setting. -/
lemma of_ofDocument? (h : ofDocument? document = some g) :
    Fits document ∧ ∀ {κ : Kind} (i : Item κ), i.Gives document (i.of g) := by
  rw [ofDocument?] at h
  split at h
  case isTrue => cases h
  case isFalse others =>
    obtain ⟨server, hs, h⟩ := Option.bind_eq_some_iff.1 h
    obtain ⟨origin, ho, h⟩ := Option.bind_eq_some_iff.1 h
    obtain ⟨cache, hc, h⟩ := Option.bind_eq_some_iff.1 h
    obtain ⟨logging, hl, h⟩ := Option.bind_eq_some_iff.1 h
    obtain ⟨bindAddress, h₁, h⟩ := Option.bind_eq_some_iff.1 h
    obtain ⟨port, h₂, h⟩ := Option.bind_eq_some_iff.1 h
    obtain ⟨routePrefix, h₃, h⟩ := Option.bind_eq_some_iff.1 h
    obtain ⟨baseUrl, h₄, h⟩ := Option.bind_eq_some_iff.1 h
    obtain ⟨timeoutSecs, h₅, h⟩ := Option.bind_eq_some_iff.1 h
    obtain ⟨userAgent, h₆, h⟩ := Option.bind_eq_some_iff.1 h
    obtain ⟨maxEntries, h₇, h⟩ := Option.bind_eq_some_iff.1 h
    obtain ⟨ttlSecs, h₈, h⟩ := Option.bind_eq_some_iff.1 h
    obtain ⟨sweepIntervalSecs, h₉, h⟩ := Option.bind_eq_some_iff.1 h
    obtain ⟨level, h₁₀, h⟩ := Option.bind_eq_some_iff.1 h
    obtain ⟨json, h₁₁, h⟩ := Option.bind_eq_some_iff.1 h
    have gives {κ : Kind} (i : Item κ) : i.Gives document (i.of g) := by
      rw [← Option.some.inj h]
      cases i with
      | bindAddress => exact (Item.gives_iff hs).1 h₁
      | port => exact (Item.gives_iff hs).1 h₂
      | routePrefix => exact (Item.gives_iff hs).1 h₃
      | baseUrl => exact (Item.gives_iff ho).1 h₄
      | timeoutSecs => exact (Item.gives_iff ho).1 h₅
      | userAgent => exact (Item.gives_iff ho).1 h₆
      | maxEntries => exact (Item.gives_iff hc).1 h₇
      | ttlSecs => exact (Item.gives_iff hc).1 h₈
      | sweepIntervalSecs => exact (Item.gives_iff hc).1 h₉
      | level => exact (Item.gives_iff hl).1 h₁₀
      | json => exact (Item.gives_iff hl).1 h₁₁
    refine ⟨⟨others_iff.1 (by simpa using others), ?_, fun i node => (gives i).takes⟩, gives⟩
    intro p
    cases p with
    | server => exact sectionOf?_iff.1 ⟨server, hs⟩
    | origin => exact sectionOf?_iff.1 ⟨origin, ho⟩
    | cache => exact sectionOf?_iff.1 ⟨cache, hc⟩
    | logging => exact sectionOf?_iff.1 ⟨logging, hl⟩

/-- A document that fits gives something. -/
lemma ofDocument?_of_fits (fits : Fits document) : ∃ g, ofDocument? document = some g := by
  have known := others_iff.2 fits.others
  obtain ⟨server, hs⟩ := sectionOf?_iff.2 (fits.sections .server)
  obtain ⟨origin, ho⟩ := sectionOf?_iff.2 (fits.sections .origin)
  obtain ⟨cache, hc⟩ := sectionOf?_iff.2 (fits.sections .cache)
  obtain ⟨logging, hl⟩ := sectionOf?_iff.2 (fits.sections .logging)
  have value {κ : Kind} {fs : Fields} (i : Item κ)
      (given : sectionOf? document i.home.title i.home.names = some fs) :
      ∃ v?, value? κ.read fs i.name = some v? := by
    obtain ⟨v?, gives⟩ := fits.gives i
    exact ⟨v?, (Item.gives_iff given).2 gives⟩
  obtain ⟨_, h₁⟩ := value .bindAddress hs
  obtain ⟨_, h₂⟩ := value .port hs
  obtain ⟨_, h₃⟩ := value .routePrefix hs
  obtain ⟨_, h₄⟩ := value .baseUrl ho
  obtain ⟨_, h₅⟩ := value .timeoutSecs ho
  obtain ⟨_, h₆⟩ := value .userAgent ho
  obtain ⟨_, h₇⟩ := value .maxEntries hc
  obtain ⟨_, h₈⟩ := value .ttlSecs hc
  obtain ⟨_, h₉⟩ := value .sweepIntervalSecs hc
  obtain ⟨_, h₁₀⟩ := value .level hl
  obtain ⟨_, h₁₁⟩ := value .json hl
  have next {α β : Type} {x : Option α} {a : α} {f : α → Option β} {b : β} (h : x = some a)
      (rest : f a = some b) : (x >>= f) = some b :=
    Option.bind_eq_some_iff.2 ⟨a, h, rest⟩
  rw [ofDocument?, known]
  exact ⟨_, next hs <| next ho <| next hc <| next hl <| next h₁ <| next h₂ <| next h₃ <| next h₄ <|
    next h₅ <| next h₆ <| next h₇ <| next h₈ <| next h₉ <| next h₁₀ <| next h₁₁ rfl⟩

end Given

end Settings

end EdgeCache
