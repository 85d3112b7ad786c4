import EdgeCache.Proofs.Settings.Documents
import EdgeCache.Proofs.Settings.Rules
import EdgeCache.Settings.Load
import Mathlib.Tactic.Lemma

/-!
# Settings are layered

Every setting is what the command line says, or else what the document gives, or else its default,
whatever becomes of the others. Only what comes of all of them has to keep the rules.
-/

namespace EdgeCache.Settings

open Toml

variable {κ : Kind} {i : Item κ} {s t c : Settings} {g : Given} {o : Overrides} {document : Fields}
  {v? w? : Option κ.Value} {read : String → Except FileFault ByteArray} {path? : Option String}

namespace Item

/-- The value of a setting; only the time to live may have none. -/
def get : {κ : Kind} → Item κ → Settings → Option κ.Value
  | _, bindAddress, s => some s.server.bindAddress
  | _, port, s => some s.server.port
  | _, routePrefix, s => some s.server.routePrefix
  | _, baseUrl, s => some s.origin.baseUrl
  | _, timeoutSecs, s => some s.origin.timeoutSecs
  | _, userAgent, s => some s.origin.userAgent
  | _, maxEntries, s => some s.cache.maxEntries
  | _, ttlSecs, s => s.cache.ttlSecs
  | _, sweepIntervalSecs, s => some s.cache.sweepIntervalSecs
  | _, level, s => some s.logging.level
  | _, json, s => some s.logging.json

/-- What the command line says of a setting. -/
def override : {κ : Kind} → Item κ → Overrides → Option κ.Value
  | _, bindAddress, o => o.bindAddress
  | _, port, o => o.port
  | _, baseUrl, o => o.originUrl
  | _, level, o => o.logLevel
  | _, _, _ => none

/-- What a setting comes to. -/
inductive Settles (i : Item κ) (o : Overrides) (document : Fields) : Option κ.Value → Prop where
  | overridden {v : κ.Value} :
    i.override o = some v →
    Settles i o document (some v)
  | given {node : Node} {v : κ.Value} :
    i.override o = none →
    i.node? document = some node →
    κ.Takes node v →
    Settles i o document (some v)
  | default :
    i.override o = none →
    i.node? document = none →
    Settles i o document (i.get Settings.default)

/-- A setting that the command line is silent about depends on what the document gives for it. -/
lemma Settles.congr {document' : Fields} (settles : i.Settles o document v?)
    (same : i.override o = none → i.node? document = i.node? document') :
    i.Settles o document' v? := by
  cases settles with
  | overridden said => exact .overridden said
  | given unsaid there takes => exact .given unsaid (same unsaid ▸ there) takes
  | default unsaid absent => exact .default unsaid (same unsaid ▸ absent)

lemma of_given (i : Item κ) : i.of o.given = i.override o := by
  cases i <;> rfl

lemma get_update (i : Item κ) : i.get (s.update g) = (i.of g).or (i.get s) := by
  cases i with
  | ttlSecs => rfl
  | _ => exact Option.or_some.symm

/-- A setting comes to one value: later sources come before earlier ones. -/
lemma settles_iff (gives : i.Gives document v?) :
    i.Settles o document w? ↔ w? = (i.override o).or (v?.or (i.get default)) := by
  constructor
  · intro settles
    cases settles with
    | overridden said => rw [said, Option.some_or]
    | given unsaid there takes =>
      cases gives with
      | nothing absent =>
        rw [there] at absent
        cases absent
      | value there' takes' =>
        obtain rfl := Option.some.inj (there.symm.trans there')
        rw [unsaid, Option.none_or, Option.some_or, ← Kind.read_iff.2 takes, Kind.read_iff.2 takes']
    | default unsaid absent =>
      cases gives with
      | nothing => rw [unsaid, Option.none_or, Option.none_or]
      | value there =>
        rw [absent] at there
        cases there
  · rintro rfl
    cases said : i.override o with
    | some v => exact .overridden said
    | none =>
      cases gives with
      | nothing absent => exact .default said absent
      | value there takes => exact .given said there takes

end Item

/-- Settings are the same if each of them is. -/
lemma ext_get (same : ∀ {κ : Kind} (i : Item κ), i.get s = i.get t) : s = t := by
  have bindAddress := Option.some.inj (same .bindAddress)
  have port := Option.some.inj (same .port)
  have routePrefix := Option.some.inj (same .routePrefix)
  have baseUrl := Option.some.inj (same .baseUrl)
  have timeoutSecs := Option.some.inj (same .timeoutSecs)
  have userAgent := Option.some.inj (same .userAgent)
  have maxEntries := Option.some.inj (same .maxEntries)
  have ttlSecs : s.cache.ttlSecs = t.cache.ttlSecs := same .ttlSecs
  have sweepIntervalSecs := Option.some.inj (same .sweepIntervalSecs)
  have level := Option.some.inj (same .level)
  have json := Option.some.inj (same .json)
  obtain ⟨⟨_, _, _⟩, ⟨_, _, _⟩, ⟨_, _, _⟩, ⟨_, _⟩⟩ := s
  obtain ⟨⟨_, _, _⟩, ⟨_, _, _⟩, ⟨_, _, _⟩, ⟨_, _⟩⟩ := t
  subst bindAddress port routePrefix baseUrl timeoutSecs userAgent maxEntries ttlSecs
    sweepIntervalSecs level json
  rfl

/-! ## Sources -/

/-- What is to be read as a document: nothing, or the text of a file. -/
inductive Source (read : String → Except FileFault ByteArray) : Option String → Fields → Prop where
  | none :
    Source read none []
  | file {path text : String} {document : Fields} :
    read path = .ok text.toUTF8 →
    Fields.ofText? text = some document →
    Source read (some path) document

lemma fromUTF8?_iff {bytes : ByteArray} {text : String} :
    String.fromUTF8? bytes = some text ↔ bytes = text.toUTF8 := by
  rw [String.fromUTF8?]
  constructor
  · intro h
    split at h
    · cases h
      rfl
    · cases h
  · rintro rfl
    rw [String.toUTF8_eq_toByteArray, dif_pos text.isValidUTF8]
    rfl

lemma ofText_iff {text : String} :
    ofText text = .ok s ↔
      ∃ document g, Fields.ofText? text = some document ∧ Given.ofDocument? document = some g ∧
        s = default.update g := by
  rw [ofText]
  constructor
  · intro h
    split at h
    case h_1 g given =>
      obtain ⟨document, parsed, given⟩ := Option.bind_eq_some_iff.1 given
      exact ⟨document, g, parsed, given, (Except.ok.inj h).symm⟩
    case h_2 => cases h
  · rintro ⟨document, g, parsed, given, rfl⟩
    rw [parsed, Option.bind_some, given]

lemma ofFile_iff {path : String} {content : Except FileFault ByteArray} :
    ofFile path content = .ok s ↔ ∃ text, content = .ok text.toUTF8 ∧ ofText text = .ok s := by
  constructor
  · intro h
    simp only [ofFile] at h
    split at h
    case h_1 => cases h
    case h_2 bytes =>
      split at h
      case h_1 => cases h
      case h_2 text read =>
        rw [fromUTF8?_iff] at read
        exact ⟨text, congrArg Except.ok read, h⟩
  · rintro ⟨text, rfl, h⟩
    simp only [ofFile, fromUTF8?_iff.2 rfl, h]

/-- What is loaded are the defaults, updated by what a document gives and then by the command line. -/
lemma load_iff :
    load read path? o = .ok s ↔
      ∃ document g, Source read path? document ∧ Given.ofDocument? document = some g ∧
        s = (default.update g).update o.given := by
  cases path? with
  | none =>
    constructor
    · intro h
      cases h
      exact ⟨[], .nothing, .none, rfl, rfl⟩
    · rintro ⟨_, _, ⟨⟩, given, rfl⟩
      cases given
      rfl
  | some path =>
    constructor
    · intro h
      rw [load] at h
      cases file : ofFile path (read path) with
      | error e =>
        rw [file] at h
        cases h
      | ok s' =>
        rw [file] at h
        cases h
        obtain ⟨text, content, file⟩ := ofFile_iff.1 file
        obtain ⟨document, g, parsed, given, rfl⟩ := ofText_iff.1 file
        exact ⟨document, g, .file content parsed, given, rfl⟩
    · rintro ⟨document, g, source, given, rfl⟩
      cases source with
      | file content parsed =>
        have text := ofText_iff.2 ⟨document, g, parsed, given, rfl⟩
        have file : ofFile path (read path) = _ := ofFile_iff.2 ⟨_, content, text⟩
        rw [load, file]
        rfl

/-- Settings are those that a document and the command line lead to exactly if each of them is. -/
lemma update_iff (given : Given.ofDocument? document = some g) :
    s = (default.update g).update o.given ↔ ∀ {κ : Kind} (i : Item κ), i.Settles o document (i.get s) := by
  obtain ⟨_, gives⟩ := Given.of_ofDocument? given
  have merged {κ : Kind} (i : Item κ) : i.get ((default.update g).update o.given) =
      (i.override o).or ((i.of g).or (i.get default)) := by
    rw [i.get_update, i.get_update, i.of_given]
  constructor
  · rintro rfl κ i
    exact (Item.settles_iff (gives i)).2 (merged i)
  · intro settles
    apply ext_get
    intro κ i
    rw [merged, (Item.settles_iff (gives i)).1 (settles i)]

/-- Whatever has been loaded is checked, and nothing else is. -/
lemma loadValid_of_load (h : load read path? o = .ok s) :
    loadValid read path? o =
      match s.check with
      | .ok _ => .ok s
      | .error v => .error (.invalid v) := by
  simp only [loadValid, h]
  change (s.check.mapError LoadError.invalid >>= fun _ => pure s) = _
  cases s.check <;> rfl

lemma loadValid_iff : loadValid read path? o = .ok c ↔ load read path? o = .ok c ∧ c.Lawful := by
  rw [← check_iff]
  cases h : load read path? o with
  | error e =>
    simp only [loadValid, h]
    exact ⟨nofun, fun h => nomatch h.1⟩
  | ok s =>
    rw [loadValid_of_load h]
    cases checked : s.check with
    | error v =>
      constructor
      · intro h
        cases h
      · rintro ⟨⟨⟩, passed⟩
        rw [checked] at passed
        cases passed
    | ok =>
      constructor
      · rintro ⟨⟩
        exact ⟨rfl, checked⟩
      · rintro ⟨⟨⟩, _⟩
        rfl

/-- A document that fits leads to settings in which each one is what it should be. -/
lemma Source.load (source : Source read path? document) (fits : Fits document) :
    ∃ g, Given.ofDocument? document = some g ∧
      Settings.load read path? o = .ok ((default.update g).update o.given) := by
  obtain ⟨g, given⟩ := Given.ofDocument?_of_fits fits
  exact ⟨g, given, load_iff.2 ⟨document, g, source, given, rfl⟩⟩

/-- For every file, command line and document:
(1) there are settings exactly if there is no file, or it holds a document, if this document fits, and
if the settings keep the rules in which each one is what the command line says of it, or else what
the document gives for it, or else its default;
(2) a document that fits leads to such settings whether they keep the rules or not, and a rule that
is broken is reported only for them;
(3) nothing else in a document that fits counts: not the sections and names that are not known, nor
what an array has after the last value of its section, nor what is given where the command line
says something else.
A section is a table or an array of its values in order; a date or a time may stand for one too, and
gives nothing. -/
theorem settings_are_layered (read : String → Except FileFault ByteArray) (path? : Option String)
    (o : Overrides) :
    (∀ c, loadValid read path? o = .ok c ↔
      ∃ document, Source read path? document ∧ Fits document ∧
        (∀ {κ : Kind} (i : Item κ), i.Settles o document (i.get c)) ∧ c.Lawful) ∧
    (∀ document, Source read path? document → Fits document → ∃ c,
      (∀ {κ : Kind} (i : Item κ), i.Settles o document (i.get c)) ∧
        (loadValid read path? o = .ok c ∨
          ∃ v, c.check = .error v ∧ loadValid read path? o = .error (.invalid v))) ∧
    ∀ read' path?' document document', Source read path? document → Source read' path?' document' →
      Fits document → Fits document' →
      (∀ {κ : Kind} (i : Item κ), i.override o = none → i.node? document = i.node? document') →
      loadValid read path? o = loadValid read' path?' o := by
  refine ⟨?_, ?_, ?_⟩
  · intro c
    rw [loadValid_iff, load_iff]
    constructor
    · rintro ⟨⟨document, g, source, given, eq⟩, lawful⟩
      exact ⟨document, source, (Given.of_ofDocument? given).1, (update_iff given).1 eq, lawful⟩
    · rintro ⟨document, source, fits, settles, lawful⟩
      obtain ⟨g, given⟩ := Given.ofDocument?_of_fits fits
      exact ⟨⟨document, g, source, given, (update_iff given).2 settles⟩, lawful⟩
  · intro document source fits
    obtain ⟨g, given, loaded⟩ := source.load (o := o) fits
    refine ⟨_, (update_iff given).1 rfl, ?_⟩
    rw [loadValid_of_load loaded]
    cases checked : ((default.update g).update o.given).check with
    | ok => exact .inl rfl
    | error v => exact .inr ⟨v, rfl, rfl⟩
  · intro read' path?' document document' source source' fits fits' same
    obtain ⟨g, given, loaded⟩ := source.load (o := o) fits
    obtain ⟨g', given', loaded'⟩ := source'.load (o := o) fits'
    -- Both documents lead to the same settings, since each setting comes to the same value.
    have eq : (default.update g).update o.given = (default.update g').update o.given := by
      apply (update_iff given').2
      intro κ i
      refine ((update_iff given).1 rfl i).congr ?_
      exact same i
    rw [loadValid_of_load loaded, loadValid_of_load loaded', eq]

/-- A URL that breaks the rules does no harm where the command line gives another. -/
example :
    loadValid (fun _ => .ok "origin.base_url = 'ftp://a/'".toUTF8) (some "ferrous-cdn.toml")
      ⟨none, none, some "http://a/", none⟩ =
    .ok { default with origin := { default.origin with baseUrl := "http://a/" } } := by
  decide +kernel

/-- Whether a value is a date, a time or both. -/
def isMoment : Node → Bool
  | .moment => true
  | .string _ => false
  | .integer _ => false
  | .float _ => false
  | .boolean _ => false
  | .array _ => false
  | .tables _ => false
  | .table _ _ => false

/-- No other value is taken for one. -/
lemma isMoment_iff {node : Node} : isMoment node = true ↔ node = .moment := by
  cases node <;> simp [isMoment]

/-- A section that is neither a table nor an array is not always refused: a date is taken for one. -/
theorem sections_not_only_tables_and_arrays :
    ¬ ∀ (text : String) (o : Overrides) (c : Settings),
      loadValid (fun _ => .ok text.toUTF8) (some "ferrous-cdn.toml") o = .ok c →
      ∀ document, Fields.ofText? text = some document →
      ∀ (p : Section) node, document.lookup p.title = some node →
        (∃ making fields, node = .table making fields) ∨
          ∃ items, node = .array items ∨ node = .tables items := by
  intro all
  have parsed : Fields.ofText? "server = 1979-05-27" = some [("server", .moment)] := by
    have read : (Fields.ofText? "server = 1979-05-27").map
        (List.map fun f => (f.1, isMoment f.2)) = some [("server", true)] := by decide +kernel
    obtain ⟨document, given, fields⟩ := Option.map_eq_some_iff.1 read
    obtain ⟨⟨name, node⟩, rest, rfl, first, others⟩ := List.map_eq_cons_iff.1 fields
    obtain ⟨rfl, moment⟩ := Prod.mk.inj first
    obtain rfl : node = .moment := isMoment_iff.1 moment
    rw [given, List.map_eq_nil_iff.1 others]
  have lawful : default.check = .ok () := by decide +kernel
  have loaded : loadValid (fun _ => .ok "server = 1979-05-27".toUTF8) (some "ferrous-cdn.toml")
      ⟨none, none, none, none⟩ = .ok default := by
    rw [loadValid_iff, load_iff]
    exact ⟨⟨_, .nothing, .file rfl parsed, rfl, rfl⟩, check_iff.1 lawful⟩
  rcases all _ _ _ loaded _ parsed .server .moment rfl with ⟨_, _, eq⟩ | ⟨_, eq | eq⟩
  · cases eq
  · cases eq
  · cases eq

end EdgeCache.Settings
