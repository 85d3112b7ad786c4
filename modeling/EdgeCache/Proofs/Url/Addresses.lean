import EdgeCache.Proofs.Url.Literal

/-!
# Which keys have addresses, and which ask for the base

A plain key has an address wherever the base is a directory, and nowhere else. An address differs from
the base as text, so it asks for something else than the base unless all that differs is a fragment.
-/

namespace EdgeCache

namespace Url

variable {cs : List Char} {a : Authority} {u base : Url}

/-- An address without a query and a fragment has none behind its path, so a base that has one of them is
not what it begins with. -/
lemma Solid.bare_of_within (solid : u.Solid) (bare : u.tail = []) (scheme : u.scheme = base.scheme)
    (authority : u.authority = base.authority) (within : base.chars <+: u.chars) : base.tail = [] := by
  obtain ⟨a, h⟩ := solid.authority
  rw [chars_eq h, chars_eq (authority.symm.trans h), scheme, bare, List.append_nil] at within
  have path := (List.prefix_append_right_inj _).1 within
  cases behind : base.tail with
  | nil => rfl
  | cons c rest =>
    exfalso
    rw [behind] at path
    have here : c ∈ writePath u.path := path.subset (List.mem_append_right _ List.mem_cons_self)
    have mark := @endsPath_tail base c (by rw [behind]; rfl)
    rw [writePath_pathless solid.proper c here] at mark
    cases mark

/-- An address that comes from no hash has no fragment. -/
lemma below_fragment_none (hashless : '#' ∉ cs) : (base.below cs).fragment = none := by
  have inside : ∀ c ∈ clean ('.' :: '/' :: cs), c ≠ '#' := by
    rintro c mc rfl
    have given := clean_sublist.subset mc
    simp [hashless] at given
  generalize text : clean ('.' :: '/' :: cs) = cs' at inside
  have gone : (cs'.dropWhile fun c => !endsPath c).dropWhile (· ≠ '#') = [] := by
    rw [List.dropWhile_eq_nil_iff]
    intro c mc
    exact decide_eq_true (inside c ((List.dropWhile_suffix _).subset mc))
  simp only [below, text, readTail, gone]

/-- A URL is written as what is in front of its path, its target and its fragment. So two that differ in
their fragments only, of which one has none, differ by the fragment of the other. -/
lemma chars_of_target (h : base.authority = some a) (scheme : u.scheme = base.scheme)
    (authority : u.authority = base.authority) (same : u.target = base.target)
    (bare : u.fragment = none) :
    base.chars = u.chars ++ (base.fragment.map ('#' :: ·)).getD [] := by
  have written {v : Url} (hv : v.authority = some a) :
      v.chars = (v.scheme ++ ':' :: '/' :: '/' :: a.chars) ++
        (v.target.toList ++ (v.fragment.map ('#' :: ·)).getD []) := by
    rw [chars_eq hv, tail, target, String.toList_ofList, List.append_assoc (writePath v.path)]
  rw [written h, written (authority.trans h), scheme, same, bare]
  simp only [Option.map_none, Option.getD_none, List.append_nil, List.append_assoc]

end Url

namespace Origin

variable {o : Origin} {k : Key} {u : Url}

lemma address_of_outside (outside : ¬o.base.chars <+: (o.base.below k.chars).chars) :
    o.address k = .error (.malformedKey s!"'{k.text}' does not resolve under {o.base.text}") := by
  simp only [address]
  apply if_neg
  rw [Bool.and_eq_true, List.isPrefixOf_iff_prefix]
  exact fun within => outside within.1

/-- With valid settings whose origin can be built, every plain key without dot segments has an address
if neither a question mark nor a hash is in the text of the base. The address has the scheme and the
authority of the base, its path is that of the base with the key behind it, and that is all. If there is
such a mark in the text, no such key has an address. -/
theorem plain_keys_have_addresses (s : Settings) (o : Origin) (k : Key) (valid : s.check = .ok ())
    (built : s.toOrigin = .ok o) (plain : k.Plain)
    (dotless : ∀ part ∈ partsAt (· = '/') k.chars, part ≠ ['.'] ∧ part ≠ ['.', '.']) :
    ('?' ∉ s.origin.baseUrl.toList ∧ '#' ∉ s.origin.baseUrl.toList →
      ∃ u, o.address k = .ok u ∧ u.scheme = o.base.scheme ∧ u.authority = o.base.authority ∧
        Url.writePath u.path = Url.writePath o.base.path ++ k.chars ∧
        u.query = none ∧ u.fragment = none) ∧
    ('?' ∈ s.origin.baseUrl.toList ∨ '#' ∈ s.origin.baseUrl.toList →
      o.address k = .error (.malformedKey s!"'{k.text}' does not resolve under {o.base.text}")) := by
  have verbatim := plain.verbatim dotless
  have solid := Settings.toOrigin_solid valid built
  have below := verbatim.below solid.web
  constructor
  · intro bare
    have dir := Settings.toOrigin_directory valid built (Url.pathless_iff.2 bare)
    refine ⟨_, address_of_directory dir verbatim, rfl, rfl, dir.writePath_below verbatim, ?_⟩
    rw [below]
    exact ⟨rfl, rfl⟩
  · intro marked
    apply address_of_outside
    intro within
    have bare : (o.base.below k.chars).tail = [] := by
      rw [Url.tail_eq_nil_iff, below]
      exact ⟨rfl, rfl⟩
    have nothing : o.base.tail = [] := (solid.below k.chars).bare_of_within bare rfl rfl within
    have unmarked := (Settings.toOrigin_bare valid built).1 (Url.tail_eq_nil_iff.1 nothing)
    obtain ⟨mark, hash⟩ := Url.pathless_iff.1 unmarked
    exact marked.elim mark hash

/-- A script below a base with a port. -/
theorem plain_keys_have_addresses_script :
    let s : Settings := { Settings.default with origin := ⟨"http://[::1]:81/libs/", 10, "test"⟩ }
    let k : Key := ⟨"jquery/jquery.min.js".toList, by decide, by decide, by decide⟩
    ∃ o u, s.check = .ok () ∧ s.toOrigin = .ok o ∧ k.Plain ∧
      (∀ part ∈ partsAt (· = '/') k.chars, part ≠ ['.'] ∧ part ≠ ['.', '.']) ∧ o.address k = .ok u ∧
      Url.writePath u.path = "/libs/jquery/jquery.min.js".toList := by
  intro s k
  let base : Url := ⟨"http".toList, some ⟨[], [], .ipv6 [0, 0, 0, 0, 0, 0, 0, 1], some 81⟩, ["libs".toList, []],
    none, none⟩
  have valid : s.check = .ok () := by decide
  have read : Origin.of "http://[::1]:81/libs/" "test" = .ok ⟨base, "test"⟩ := by rfl
  have built : s.toOrigin = .ok ⟨base, "test"⟩ := read
  have plain : k.Plain := by decide
  have dotless : ∀ part ∈ partsAt (· = '/') k.chars, part ≠ ['.'] ∧ part ≠ ['.', '.'] := by decide
  obtain ⟨addressed, _⟩ := plain_keys_have_addresses s ⟨base, "test"⟩ k valid built plain dotless
  obtain ⟨u, found, _, _, path, _⟩ := addressed (by decide)
  exact ⟨_, u, valid, built, plain, dotless, found, path⟩

/-- A base that ends with a slash, but in its query: it keeps the rules, and no key has an address. -/
theorem no_addresses_behind_a_query :
    let s : Settings := { Settings.default with origin := ⟨"http://[::1]/libs/?v=1/", 10, "test"⟩ }
    let k : Key := ⟨"x.js".toList, by decide, by decide, by decide⟩
    ∃ o, s.check = .ok () ∧ s.toOrigin = .ok o ∧ k.Plain ∧
      (∀ part ∈ partsAt (· = '/') k.chars, part ≠ ['.'] ∧ part ≠ ['.', '.']) ∧
      ∀ u, o.address k ≠ .ok u := by
  intro s k
  let base : Url := ⟨"http".toList, some ⟨[], [], .ipv6 [0, 0, 0, 0, 0, 0, 0, 1], none⟩, ["libs".toList, []],
    some "v=1/".toList, none⟩
  have valid : s.check = .ok () := by decide
  have read : Origin.of "http://[::1]/libs/?v=1/" "test" = .ok ⟨base, "test"⟩ := by rfl
  have built : s.toOrigin = .ok ⟨base, "test"⟩ := read
  have outside : base.chars.isPrefixOf (base.below k.chars).chars = false := by decide +kernel
  refine ⟨⟨base, "test"⟩, valid, built, by decide, by decide, fun u found => ?_⟩
  obtain ⟨rfl, within⟩ := address_inv found
  rw [List.isPrefixOf_iff_prefix.2 within] at outside
  cases outside

/-- With valid settings whose origin can be built, an address that does not come from a hash is for
another resource than the base: what its host is asked for differs, and so does the URL without its
fragment. But if the text of the base has neither a question mark nor a hash, every key that begins with
a hash has an address, and it asks for the base itself. -/
theorem only_fragments_ask_for_base (s : Settings) (o : Origin) (valid : s.check = .ok ())
    (built : s.toOrigin = .ok o) :
    (∀ k u, o.address k = .ok u → '#' ∉ k.chars →
      u.target ≠ o.base.target ∧ { u with fragment := none } ≠ { o.base with fragment := none }) ∧
    ('?' ∉ s.origin.baseUrl.toList ∧ '#' ∉ s.origin.baseUrl.toList → ∀ k : Key,
      k.chars.head? = some '#' → ∃ u, o.address k = .ok u ∧
        { u with fragment := none } = { o.base with fragment := none }) := by
  have solid := Settings.toOrigin_solid valid built
  obtain ⟨a, authority⟩ := solid.authority
  constructor
  · intro k u found hashless
    obtain ⟨rfl, within, other⟩ := address_eq_ok_iff.1 found
    have target : (o.base.below k.chars).target ≠ o.base.target := by
      intro same
      -- With the same target the base could only be longer, and it is not.
      have longer : o.base.chars = (o.base.below k.chars).chars ++ _ :=
        Url.chars_of_target authority rfl rfl same (Url.below_fragment_none hashless)
      refine other (within.eq_of_length_le ?_).symm
      rw [longer, List.length_append]
      omega
    refine ⟨target, fun same => target ?_⟩
    have same' := congrArg Url.target same
    exact same'
  · intro bare k hash
    have dir := Settings.toOrigin_directory valid built (Url.pathless_iff.2 bare)
    obtain ⟨rest, eq⟩ : ∃ rest, k.chars = '#' :: rest := List.head?_eq_some_iff.1 hash
    obtain ⟨f, below⟩ := @Url.Directory.below_fragment rest o.base dir
    refine ⟨o.base.below k.chars, address_eq_ok_iff.2 ⟨rfl, ?_⟩, ?_⟩
    · rw [eq, below, dir.chars_fragment]
      refine ⟨List.prefix_append _ _, fun same => ?_⟩
      cases List.append_right_eq_self.1 same
    · rw [eq, below]

/-- Below a base a script is not the base, but a fragment is. -/
theorem only_fragments_ask_for_base_script :
    let s : Settings := { Settings.default with origin := ⟨"http://[::1]/libs/", 10, "test"⟩ }
    let script : Key := ⟨"x.js".toList, by decide, by decide, by decide⟩
    let top : Key := ⟨"#top".toList, by decide, by decide, by decide⟩
    ∃ o u v, s.check = .ok () ∧ s.toOrigin = .ok o ∧ o.address script = .ok u ∧
      u.target ≠ o.base.target ∧ o.address top = .ok v ∧
      { v with fragment := none } = { o.base with fragment := none } := by
  intro s script top
  let base : Url := ⟨"http".toList, some ⟨[], [], .ipv6 [0, 0, 0, 0, 0, 0, 0, 1], none⟩, ["libs".toList, []],
    none, none⟩
  have valid : s.check = .ok () := by decide
  have read : Origin.of "http://[::1]/libs/" "test" = .ok ⟨base, "test"⟩ := by rfl
  have built : s.toOrigin = .ok ⟨base, "test"⟩ := read
  have found : (⟨base, "test"⟩ : Origin).address script =
      .ok { base with path := ["libs".toList, "x.js".toList] } := by decide +kernel
  obtain ⟨others, fragments⟩ := only_fragments_ask_for_base s ⟨base, "test"⟩ valid built
  obtain ⟨v, top_found, same⟩ := fragments (by decide) top rfl
  exact ⟨_, _, v, valid, built, found, (others script _ found (by decide)).1, top_found, same⟩

/-- A key that is a fragment has an address, and without its fragment this is the base. -/
theorem fragment_asks_for_base :
    let s : Settings := { Settings.default with origin := ⟨"http://[::1]/libs/", 10, "test"⟩ }
    let k : Key := ⟨"#x".toList, by decide, by decide, by decide⟩
    ∃ o u, s.check = .ok () ∧ s.toOrigin = .ok o ∧ o.address k = .ok u ∧
      u.text = "http://[::1]/libs/#x" ∧ { u with fragment := none } = { o.base with fragment := none } := by
  intro s k
  let base : Url := ⟨"http".toList, some ⟨[], [], .ipv6 [0, 0, 0, 0, 0, 0, 0, 1], none⟩, ["libs".toList, []],
    none, none⟩
  have valid : s.check = .ok () := by decide
  have read : Origin.of "http://[::1]/libs/" "test" = .ok ⟨base, "test"⟩ := by rfl
  have built : s.toOrigin = .ok ⟨base, "test"⟩ := read
  have found : (⟨base, "test"⟩ : Origin).address k = .ok { base with fragment := some "x".toList } := by
    decide +kernel
  exact ⟨_, _, valid, built, found, rfl, rfl⟩

end Origin

end EdgeCache
