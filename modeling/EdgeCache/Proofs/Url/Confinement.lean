import EdgeCache.Proofs.Settings.Rules
import EdgeCache.Proofs.Url.Path
import EdgeCache.Service
import Mathlib.Data.List.Basic

/-!
# No key leads out of its origin

The address of a key is made by a walk from the base's own segments, so it has the scheme and the
authority of the base. That its text begins with the text of the base says the same of its path,
since neither path holds a mark that could end it early.
-/

namespace EdgeCache

namespace Url

variable {scheme cs p : List Char} {s : String} {u base : Url} {k : Key}

/-! ## Bases -/

/-- What a text begins with is read as it is if it has no blanks. -/
lemma clean_append (solid : ∀ c ∈ p, ' ' < c) : ∃ rest, clean (p ++ cs) = p ++ rest := by
  -- Blanks are dropped off an end of a text only as far as the first character that is none.
  have stops {l m : List Char} (ne : l ≠ []) (h : ∀ c ∈ l, ' ' < c) :
      (l ++ m).dropWhile (fun c => decide (c ≤ ' ')) = l ++ m := by
    cases l with
    | nil => exact absurd rfl ne
    | cons c l =>
      have first : ¬c ≤ ' ' := Char.not_le.2 (h c List.mem_cons_self)
      rw [List.cons_append, List.dropWhile_cons, if_neg (by simpa using first)]
  have kept : p.filter (fun c => c ≠ '\t' && c ≠ '\n' && c ≠ '\r') = p := by
    refine List.filter_eq_self.2 fun c mc => ?_
    have lt := solid c mc
    have tab : c ≠ '\t' := fun e => absurd (e ▸ lt) (by decide)
    have feed : c ≠ '\n' := fun e => absurd (e ▸ lt) (by decide)
    have back : c ≠ '\r' := fun e => absurd (e ▸ lt) (by decide)
    simp [tab, feed, back]
  cases p with
  | nil => exact ⟨clean cs, rfl⟩
  | cons c p =>
    have front := stops (m := cs) (List.cons_ne_nil c p) solid
    have back : ∀ d ∈ (c :: p).reverse, ' ' < d := fun d md => solid d (List.mem_reverse.1 md)
    have ne : (c :: p).reverse ≠ [] := by simp
    have whole := stops (m := []) ne back
    rw [List.append_nil] at whole
    simp only [clean, front, List.reverse_append, List.dropWhile_append, whole]
    split
    case isTrue =>
      refine ⟨[], ?_⟩
      rw [List.reverse_reverse, kept, List.append_nil]
    case isFalse =>
      rw [List.reverse_append, List.reverse_reverse, List.filter_append, kept]
      exact ⟨_, rfl⟩

/-- The URL with an authority is of the scheme that it is given, and its path is proper. -/
lemma withPath_proper (web : Kind.ofScheme scheme = .web) {a : Option Authority} :
    ∀ x ∈ (withPath scheme a cs).path, Proper x := by
  have empty : ∀ x ∈ ([] : List Segment), Proper x := nofun
  simp only [withPath, web]
  split
  · exact walkText_proper empty
  · split
    · exact walkText_proper empty
    · exact walkText_proper empty

/-- A base as the origin has it: of the web, with an authority and a proper path. -/
structure Solid (u : Url) : Prop where
  web : u.kind = .web
  authority : ∃ a, u.authority = some a
  proper : ∀ x ∈ u.path, Proper x

/-- What is read behind the slashes of a scheme of the web is a base. -/
lemma readAfterSlashes_solid (web : Kind.ofScheme scheme = .web)
    (h : readAfterSlashes scheme cs = .ok u) : u.Solid := by
  rw [readAfterSlashes] at h
  cases front : readAuthority scheme cs with
  | error e =>
    rw [front] at h
    cases h
  | ok found =>
    rw [front] at h
    cases h
    exact ⟨web, ⟨_, rfl⟩, withPath_proper web⟩

lemma ofScheme_web (h : scheme = "http".toList ∨ scheme = "https".toList) :
    Kind.ofScheme scheme = .web := by
  rcases h with rfl | rfl
  · decide
  · decide

/-- A text that names a scheme of the web in lower case is read from behind the slashes after it. -/
lemma read_of_begins (begins : Settings.begins "http://" s = true ∨ Settings.begins "https://" s = true) :
    ∃ scheme rest, (scheme = "http".toList ∨ scheme = "https".toList) ∧
      clean s.toList = scheme ++ ':' :: '/' :: '/' :: rest ∧
      read s = (readAfterSlashes scheme (rest.dropWhile Kind.web.isSlash)).map .url := by
  have named (scheme rest : List Char) (name : scheme = "http".toList ∨ scheme = "https".toList)
      (eq : readScheme (clean s.toList) = some (scheme, '/' :: '/' :: rest)) :
      read s = (readAfterSlashes scheme (rest.dropWhile Kind.web.isSlash)).map .url := by
    simp only [read, eq, ofScheme_web name]
    rfl
  rcases begins with begins | begins
  · obtain ⟨t, eq⟩ := List.isPrefixOf_iff_prefix.1 begins
    obtain ⟨rest, clean⟩ : ∃ rest, clean ("http://".toList ++ t) = _ ++ rest :=
      clean_append (by simp)
    rw [eq] at clean
    exact ⟨_, rest, .inl rfl, clean, named _ _ (.inl rfl) (by rw [clean]; rfl)⟩
  · obtain ⟨t, eq⟩ := List.isPrefixOf_iff_prefix.1 begins
    obtain ⟨rest, clean⟩ : ∃ rest, clean ("https://".toList ++ t) = _ ++ rest :=
      clean_append (by simp)
    rw [eq] at clean
    exact ⟨_, rest, .inr rfl, clean, named _ _ (.inr rfl) (by rw [clean]; rfl)⟩

/-- A text that names a scheme of the web in lower case is read as a base, if as anything. -/
lemma read_solid (begins : Settings.begins "http://" s = true ∨ Settings.begins "https://" s = true)
    {r : Reading} (h : read s = .ok r) : ∃ u, r = .url u ∧ u.Solid := by
  obtain ⟨scheme, rest, name, _, eq⟩ := read_of_begins begins
  rw [eq] at h
  cases after : readAfterSlashes scheme (rest.dropWhile Kind.web.isSlash) with
  | error e =>
    rw [after] at h
    cases h
  | ok u =>
    rw [after] at h
    cases h
    exact ⟨u, rfl, readAfterSlashes_solid (ofScheme_web name) after⟩

/-! ## Below a base -/

lemma Solid.below (solid : base.Solid) (reference : List Char) : (base.below reference).Solid := by
  refine ⟨solid.web, solid.authority, ?_⟩
  have front : ∀ x ∈ frontOf .web base.path, Proper x := by
    intro x mx
    rw [frontOf] at mx
    split at mx
    · simp only [reduceCtorEq, decide_false, Bool.false_and, Bool.false_eq_true, if_false] at mx
      exact solid.proper x (List.dropLast_subset _ mx)
    · cases mx
  simp only [Url.below, solid.web]
  exact walkText_proper front

/-- What is written behind a path. -/
def tail (u : Url) : List Char :=
  (u.query.map ('?' :: ·)).getD [] ++ (u.fragment.map ('#' :: ·)).getD []

lemma endsPath_tail : ∀ c, u.tail.head? = some c → endsPath c = true := by
  intro c h
  cases q : u.query with
  | some query =>
    simp only [tail, q, Option.map_some, Option.getD_some, List.cons_append, List.head?_cons] at h
    cases h
    rfl
  | none =>
    cases f : u.fragment with
    | some fragment =>
      simp only [tail, q, f, Option.map_none, Option.map_some, Option.getD_none, Option.getD_some,
        List.nil_append, List.head?_cons] at h
      cases h
      rfl
    | none =>
      simp only [tail, q, f, Option.map_none, Option.getD_none, List.nil_append] at h
      cases h

/-- The written form of a URL with an authority. -/
lemma chars_eq {a : Authority} (h : u.authority = some a) :
    u.chars = (u.scheme ++ ':' :: '/' :: '/' :: a.chars) ++ (writePath u.path ++ u.tail) := by
  simp only [chars, beforeQuery, lead, h, tail, List.append_assoc, List.cons_append]

/-- Of two bases with the same scheme and authority, the one whose text begins with that of the
other has a path that begins with the path of the other. -/
lemma Solid.path_prefix (solid : base.Solid) (same_scheme : u.scheme = base.scheme)
    (same_authority : u.authority = base.authority) (within : base.chars <+: u.chars) :
    writePath base.path <+: writePath u.path := by
  obtain ⟨a, h⟩ := solid.authority
  have h' : u.authority = some a := same_authority.trans h
  rw [chars_eq h, chars_eq h', same_scheme] at within
  have rest := (List.prefix_append_right_inj _).1 within
  exact prefix_of_prefix_append rest (writePath_pathless solid.proper) endsPath_tail

end Url

/-! ## Origins -/

/-- The base of an origin is the URL that is read from the text that it is built from. -/
lemma Origin.of_read {o : Origin} {base userAgent : String} (built : Origin.of base userAgent = .ok o) :
    Url.read base = .ok (.url o.base) := by
  rw [Origin.of] at built
  cases h : Url.read base with
  | error e =>
    rw [h] at built
    cases built
  | ok r =>
    rw [h] at built
    cases r with
    | flat chars => cases built
    | url u =>
      simp only at built
      split at built
      · cases built
        rfl
      · cases built

namespace Settings

variable {s : Settings} {o : Origin}

/-- The origin's URL in valid settings names a scheme of the web. -/
lemma begins_of_check (valid : s.check = .ok ()) :
    begins "http://" s.origin.baseUrl = true ∨ begins "https://" s.origin.baseUrl = true :=
  (check_iff.1 valid).origin.scheme.imp begins_iff.2 begins_iff.2

/-- The base of an origin is the URL that is read from the settings. -/
lemma toOrigin_read (built : s.toOrigin = .ok o) : Url.read s.origin.baseUrl = .ok (.url o.base) :=
  Origin.of_read built

/-- The origin of valid settings is at a base. -/
lemma toOrigin_solid (valid : s.check = .ok ()) (built : s.toOrigin = .ok o) : o.base.Solid := by
  obtain ⟨u, eq, solid⟩ := Url.read_solid (begins_of_check valid) (toOrigin_read built)
  cases eq
  exact solid

end Settings

namespace Origin

variable {o : Origin} {k : Key} {u : Url}

lemma address_eq_ok_iff :
    o.address k = .ok u ↔
      u = o.base.below k.chars ∧ o.base.chars <+: u.chars ∧ u.chars ≠ o.base.chars := by
  simp only [address]
  split
  case isTrue within =>
    rw [Bool.and_eq_true, List.isPrefixOf_iff_prefix, decide_eq_true_eq] at within
    constructor
    · intro found
      cases found
      exact ⟨rfl, within⟩
    · rintro ⟨rfl, _⟩
      rfl
  case isFalse outside =>
    rw [Bool.and_eq_true, List.isPrefixOf_iff_prefix, decide_eq_true_eq] at outside
    refine ⟨nofun, ?_⟩
    rintro ⟨rfl, within⟩
    exact absurd within outside

/-- The address of a key is below the base as text. -/
lemma address_inv (found : o.address k = .ok u) :
    u = o.base.below k.chars ∧ o.base.chars <+: u.chars := by
  obtain ⟨eq, within, _⟩ := address_eq_ok_iff.1 found
  exact ⟨eq, within⟩

/-- With valid settings whose origin can be built, every key that has an address at all has one with
the scheme and the authority (user name, password, host and port) of the base; its path begins with
the base's path; and between the slashes and backslashes of that path stands nothing that is read as
one dot or as two, whichever of its characters are percent-encoded. -/
theorem address_confined (s : Settings) (o : Origin) (k : Key) (u : Url) (valid : s.check = .ok ())
    (built : s.toOrigin = .ok o) (found : o.address k = .ok u) :
    u.scheme = o.base.scheme ∧
    (∃ a, o.base.authority = some a ∧ u.authority = some a) ∧
    Url.writePath o.base.path <+: Url.writePath u.path ∧
    ∀ part ∈ partsAt Url.Kind.web.isSlash (Url.writePath u.path),
      Url.decode part ≠ [46] ∧ Url.decode part ≠ [46, 46] := by
  have solid := Settings.toOrigin_solid valid built
  obtain ⟨rfl, within⟩ := address_inv found
  obtain ⟨a, h⟩ := solid.authority
  refine ⟨rfl, ⟨a, h, h⟩, ?_, ?_⟩
  · exact solid.path_prefix rfl rfl within
  · exact Url.decode_part_writePath (solid.below k.chars).proper

/-- A key that goes up again, past two dots that a tab and an encoding disguise. -/
theorem address_confined_detour :
    let s : Settings := { Settings.default with origin := ⟨"http://[::1]:81/libs/", 10, "test"⟩ }
    let k : Key := ⟨"a/.%2\te\\b".toList, by decide, by decide, by decide⟩
    ∃ o u, s.check = .ok () ∧ s.toOrigin = .ok o ∧ o.address k = .ok u ∧
      u.authority = o.base.authority := by
  intro s k
  let base : Url := ⟨"http".toList, some ⟨[], [], .ipv6 [0, 0, 0, 0, 0, 0, 0, 1], some 81⟩,
    ["libs".toList, []], none, none⟩
  have valid : s.check = .ok () := by decide
  have read : Origin.of "http://[::1]:81/libs/" "test" = .ok ⟨base, "test"⟩ := by rfl
  have built : s.toOrigin = .ok ⟨base, "test"⟩ := read
  have found : (⟨base, "test"⟩ : Origin).address k =
      .ok { base with path := ["libs".toList, "b".toList] } := by decide +kernel
  obtain ⟨_, ⟨a, h, h'⟩, _⟩ := address_confined s ⟨base, "test"⟩ k _ valid built found
  exact ⟨_, _, valid, built, found, h'.trans h.symm⟩

end Origin

end EdgeCache
