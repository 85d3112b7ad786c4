import EdgeCache.Proofs.Key
import EdgeCache.Proofs.Plain
import EdgeCache.Proofs.Url.Bases

/-!
# Keys that stand in an address as they are

The characters of a literal key may all stand in the segments of a path, and none of its segments is a dot
segment. Below a directory such a key is neither decoded nor encoded nor read as anything but a path: its
address is written as the directory with the key behind it.
-/

namespace EdgeCache

namespace Url

variable {s : Segment} {rest : List Char} {c : Char}

/-! ## Dot segments -/

/-- The ways to write a dot. -/
def dots : List (List Char) := [['.'], ['%', '2', 'e'], ['%', '2', 'E']]

/-- One dot or two, each of them written in any way. -/
def dotSegments : List Segment := dots ++ dots.flatMap fun d => dots.map fun e => d ++ e

lemma dropDot?_eq_some_iff : dropDot? s = some rest ↔ ∃ d ∈ dots, s = d ++ rest := by
  constructor
  · intro h
    unfold dropDot? at h
    split at h
    · cases h
      exact ⟨_, List.mem_cons_self, rfl⟩
    · cases h
      exact ⟨['%', '2', 'e'], by decide, rfl⟩
    · cases h
      exact ⟨['%', '2', 'E'], by decide, rfl⟩
    · cases h
  · rintro ⟨d, md, rfl⟩
    simp only [dots, List.mem_cons, List.not_mem_nil, or_false] at md
    rcases md with rfl | rfl | rfl
    · rfl
    · rfl
    · rfl

lemma isSingleDot_iff : isSingleDot s = true ↔ s ∈ dots := by
  rw [isSingleDot, decide_eq_true_eq, dropDot?_eq_some_iff]
  simp only [List.append_nil, exists_eq_right']

lemma isDoubleDot_iff : isDoubleDot s = true ↔ ∃ d ∈ dots, ∃ e ∈ dots, s = d ++ e := by
  rw [isDoubleDot, decide_eq_true_eq, Option.bind_eq_some_iff]
  constructor
  · rintro ⟨rest, first, second⟩
    obtain ⟨d, md, rfl⟩ := dropDot?_eq_some_iff.1 first
    obtain ⟨e, me, rfl⟩ := dropDot?_eq_some_iff.1 second
    rw [List.append_nil]
    exact ⟨d, md, e, me, rfl⟩
  · rintro ⟨d, md, e, me, rfl⟩
    refine ⟨e, ?_, ?_⟩
    · exact dropDot?_eq_some_iff.2 ⟨d, md, rfl⟩
    · exact dropDot?_eq_some_iff.2 ⟨e, me, (List.append_nil e).symm⟩

/-- The dot segments are the segments that stay or go up. -/
lemma mem_dotSegments_iff : s ∈ dotSegments ↔ isSingleDot s = true ∨ isDoubleDot s = true := by
  rw [isSingleDot_iff, isDoubleDot_iff, dotSegments, List.mem_append]
  simp only [List.mem_flatMap, List.mem_map, eq_comm]

/-! ## Characters of segments -/

/-- Letters and digits, the marks that end nothing in a path and are not encoded there, and the percent
sign. -/
def isSegmentChar (c : Char) : Bool := c.isAlphanum || "-._~!$&'()*+,;=:@%".toList.contains c

/-- A character of a segment by its code point. -/
lemma isSegmentChar_cases (h : isSegmentChar c = true) :
    c.toNat = 33 ∨ (36 ≤ c.toNat ∧ c.toNat ≤ 46) ∨ (48 ≤ c.toNat ∧ c.toNat ≤ 59) ∨ c.toNat = 61 ∨
      (64 ≤ c.toNat ∧ c.toNat ≤ 90) ∨ c.toNat = 95 ∨ (97 ≤ c.toNat ∧ c.toNat ≤ 122) ∨
      c.toNat = 126 := by
  rw [isSegmentChar, Bool.or_eq_true] at h
  rcases h with letter | mark
  · have := isAlphanum_cases letter
    omega
  · simp only [String.reduceToList, List.contains_eq_mem, List.mem_cons, List.not_mem_nil, or_false,
      decide_eq_true_eq, ← Char.toNat_inj, Char.reduceToNat] at mark
    omega

/-- A character of a segment is not encoded in a path, and not taken for a slash. -/
lemma isSegmentChar_kept (h : isSegmentChar c = true) : inPathSet c = false ∧ c ≠ '\\' := by
  have cases := isSegmentChar_cases h
  simp only [inPathSet, inFragmentSet, inControlSet, Bool.or_eq_false_iff, decide_eq_false_iff_not,
    Char.lt_def, Char.le_def, UInt32.lt_iff_toNat_lt, UInt32.le_iff_toNat_le, Char.toNat_val,
    ← Char.toNat_inj, Char.reduceToNat, ne_eq]
  omega

lemma isSegmentChar_of_isPlain (h : isPlain c = true) : isSegmentChar c = true := by
  rw [isPlain, Bool.or_eq_true, Bool.or_eq_true, Bool.or_eq_true] at h
  rcases h with ((letter | hyphen) | line) | dot
  · rw [isSegmentChar, letter]
    rfl
  · rw [of_decide_eq_true hyphen]
    rfl
  · rw [of_decide_eq_true line]
    rfl
  · rw [of_decide_eq_true dot]
    rfl

/-- Plain characters spell no dot but a dot. -/
lemma eq_dot_of_plain (dot : s ∈ dots) (plain : ∀ c ∈ s, isPlain c = true) : s = ['.'] := by
  simp only [dots, List.mem_cons, List.not_mem_nil, or_false] at dot
  rcases dot with rfl | rfl | rfl
  · rfl
  · exact absurd (plain '%' List.mem_cons_self) (by decide)
  · exact absurd (plain '%' List.mem_cons_self) (by decide)

end Url

/-! ## Literal keys -/

namespace Key

variable {k : Key}

/-- A key of characters that may stand in segments, and slashes between them, without dot segments. -/
structure Literal (k : Key) : Prop where
  chars : ∀ c ∈ k.chars, c = '/' ∨ Url.isSegmentChar c = true
  dotless : ∀ part ∈ partsAt (· = '/') k.chars, part ∉ Url.dotSegments

lemma literal_iff :
    k.Literal ↔
      (k.chars.all fun c => c = '/' || Url.isSegmentChar c) = true ∧
        ((partsAt (· = '/') k.chars).all fun part => !Url.dotSegments.contains part) = true := by
  simp only [List.all_eq_true, Bool.or_eq_true, decide_eq_true_eq, Bool.not_eq_true',
    List.contains_eq_mem, decide_eq_false_iff_not]
  exact ⟨fun literal => ⟨literal.chars, literal.dotless⟩, fun h => ⟨h.1, h.2⟩⟩

instance (k : Key) : Decidable k.Literal := decidable_of_iff _ literal_iff.symm

/-- A literal key is joined as it is. -/
lemma Literal.verbatim (literal : k.Literal) : Url.Verbatim k.chars := by
  constructor
  case kept =>
    intro c mc
    rcases literal.chars c mc with rfl | h
    · decide
    · exact (Url.isSegmentChar_kept h).1
  case forward =>
    intro c mc
    rcases literal.chars c mc with rfl | h
    · decide
    · exact (Url.isSegmentChar_kept h).2
  case dotless =>
    intro part mp
    have no_dots := literal.dotless part mp
    rwa [Url.mem_dotSegments_iff, not_or, Bool.not_eq_true, Bool.not_eq_true] at no_dots

/-- A plain key without dot segments is literal. -/
lemma Plain.literal (plain : k.Plain)
    (dotless : ∀ part ∈ partsAt (· = '/') k.chars, part ≠ ['.'] ∧ part ≠ ['.', '.']) : k.Literal := by
  constructor
  case chars =>
    intro c mc
    exact (plain.chars mc).imp_right Url.isSegmentChar_of_isPlain
  case dotless =>
    intro part mp dot
    obtain ⟨one, two⟩ := dotless part mp
    have chars := (plain part mp).2
    rw [Url.mem_dotSegments_iff, Url.isSingleDot_iff, Url.isDoubleDot_iff] at dot
    rcases dot with single | ⟨d, md, e, me, rfl⟩
    · exact one (Url.eq_dot_of_plain single chars)
    · rw [Url.eq_dot_of_plain md fun c mc => chars c (List.mem_append_left e mc),
        Url.eq_dot_of_plain me fun c mc => chars c (List.mem_append_right d mc)] at two
      exact two rfl

/-- A plain key without dot segments is joined as it is. -/
lemma Plain.verbatim (plain : k.Plain)
    (dotless : ∀ part ∈ partsAt (· = '/') k.chars, part ≠ ['.'] ∧ part ≠ ['.', '.']) :
    Url.Verbatim k.chars :=
  (plain.literal dotless).verbatim

end Key

/-! ## Addresses -/

namespace Url.Directory

variable {cs : List Char} {base : Url}

lemma text_below (dir : base.Directory) (h : Verbatim cs) :
    (base.below cs).text = base.text ++ String.ofList cs := by
  rw [text, dir.chars_below h, String.ofList_append]
  rfl

/-- The host of an address below a directory is asked for the directory with the text behind it. -/
lemma target_below (dir : base.Directory) (h : Verbatim cs) :
    (base.below cs).target = base.target ++ String.ofList cs := by
  have query : (base.below cs).query = none := by rw [h.below dir.web]
  rw [target, target, dir.writePath_below h, query, dir.query]
  simp only [Option.map_none, Option.getD_none, List.append_nil, String.ofList_append]

end Url.Directory

namespace Origin

variable {o : Origin} {k : Key}

/-- Below a directory every text that a path can hold as it is, is the address of a key. -/
lemma address_of_directory (dir : o.base.Directory) (h : Url.Verbatim k.chars) :
    o.address k = .ok (o.base.below k.chars) := by
  have written := dir.chars_below h
  refine address_eq_ok_iff.2 ⟨rfl, ?_, ?_⟩
  · rw [written]
    exact List.prefix_append _ _
  · rw [written]
    intro eq
    exact k.ne_nil (List.append_right_eq_self.1 eq)

/-- At a base of the web that is written with a slash at the end, without a query and a fragment, every
literal key has an address. It is written as the base with the key behind it: its scheme and its authority
are those of the base, and its host is asked for what it would be asked for the base, with the key behind
it. So two literal keys, however little they differ in, have addresses that are written and asked for
differently. -/
theorem literal_keys_are_kept (base userAgent : String) (o : Origin)
    (built : Origin.of base userAgent = .ok o)
    (web : o.base.scheme = "http".toList ∨ o.base.scheme = "https".toList)
    (query : o.base.query = none) (fragment : o.base.fragment = none)
    (slash : o.base.chars.getLast? = some '/') :
    (∀ k : Key, k.Literal → ∃ u, o.address k = .ok u ∧ u.text = o.base.text ++ k.text ∧
      u.scheme = o.base.scheme ∧ u.authority = o.base.authority ∧
      u.target = o.base.target ++ k.text ∧ u.fragment = none) ∧
    ∀ k l : Key, k.Literal → l.Literal → k ≠ l → ∃ u v, o.address k = .ok u ∧ o.address l = .ok v ∧
      u.text ≠ v.text ∧ u.target ≠ v.target := by
  obtain ⟨solid, path⟩ := Url.read_web (of_read built) (Url.ofScheme_web web)
  have dir := solid.directory path query fragment slash
  constructor
  · intro k literal
    have verbatim := literal.verbatim
    refine ⟨_, address_of_directory dir verbatim, dir.text_below verbatim, rfl, rfl,
      dir.target_below verbatim, ?_⟩
    rw [verbatim.below dir.web]
  · intro k l literal literal' other
    have apart (t : String) : t ++ k.text ≠ t ++ l.text := by
      intro same
      apply other
      apply Key.text_injective
      exact (String.append_right_inj t).1 same
    refine ⟨_, _, address_of_directory dir literal.verbatim, address_of_directory dir literal'.verbatim,
      ?_, ?_⟩
    · rw [dir.text_below literal.verbatim, dir.text_below literal'.verbatim]
      exact apart _
    · rw [dir.target_below literal.verbatim, dir.target_below literal'.verbatim]
      exact apart _

/-- Two keys that look like a URL and differ in the case of a digit, below a base that is not written in
its normal form. -/
theorem literal_keys_are_kept_encoded :
    let k : Key := ⟨"http://@c:%2F..;%zz'".toList, by decide, by decide, by decide⟩
    let l : Key := ⟨"http://@c:%2f..;%zz'".toList, by decide, by decide, by decide⟩
    ∃ o u v, Origin.of "HTTP://[::1]:80/x/../libs/" "test" = .ok o ∧ o.base.scheme = "http".toList ∧
      o.base.query = none ∧ o.base.fragment = none ∧ o.base.chars.getLast? = some '/' ∧
      k.Literal ∧ l.Literal ∧ o.address k = .ok u ∧ o.address l = .ok v ∧
      u.text = "http://[::1]/libs/http://@c:%2F..;%zz'" ∧ u.text ≠ v.text ∧ u.target ≠ v.target := by
  intro k l
  let base : Url := ⟨"http".toList, some ⟨[], [], .ipv6 [0, 0, 0, 0, 0, 0, 0, 1], none⟩, ["libs".toList, []],
    none, none⟩
  have built : Origin.of "HTTP://[::1]:80/x/../libs/" "test" = .ok ⟨base, "test"⟩ := by rfl
  have slash : base.chars.getLast? = some '/' := by decide
  have literal : k.Literal := by decide
  have literal' : l.Literal := by decide
  obtain ⟨kept, apart⟩ :=
    literal_keys_are_kept _ _ ⟨base, "test"⟩ built (.inl rfl) rfl rfl slash
  obtain ⟨u, found, written, _⟩ := kept k literal
  obtain ⟨u', v, again, found', texts, targets⟩ := apart k l literal literal' (by decide)
  obtain rfl := Except.ok.inj (found.symm.trans again)
  refine ⟨_, u, v, built, rfl, rfl, rfl, slash, literal, literal', found, found', ?_, texts, targets⟩
  rw [written]
  decide +kernel

end Origin

end EdgeCache
