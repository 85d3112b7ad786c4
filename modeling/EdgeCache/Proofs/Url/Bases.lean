import EdgeCache.Proofs.Url.Joining

/-!
# Which bases are directories

The rules for an origin look at the text of its URL, and ask for a slash at the end. Addresses are made
from the URL that is read from the text. The slash at the end of the text is at the end of the path unless
there is a question mark or a hash in front of it: then the path ends there, and a query or a fragment
follows. Whatever text a base is read from, it is a directory if it has neither of them and its written form
ends with a slash.
-/

namespace EdgeCache

namespace Url

variable {scheme cs rest : List Char} {s : String} {a : Authority} {u : Url} {c : Char} {k : Kind}
variable {front segments : List Segment}

/-! ## Authorities -/

section

variable {α β : Type} {m : Except Error α} {v : α} {w : β}

/-- What is computed behind a check is computed only if the check does not throw. -/
lemma ok_of_guard {p : Prop} [Decidable p] {e : Error} {next : PUnit → Except Error α}
    (h : (if p then throw e >>= next else m) = .ok v) : m = .ok v := by
  split at h
  · cases h
  · exact h

/-- What goes on after a step has had its result. -/
lemma ok_bind {next : α → Except Error β} (h : (m >>= next) = .ok w) :
    ∃ x, m = .ok x ∧ next x = .ok w := by
  cases m with
  | error e => cases h
  | ok x => exact ⟨x, rfl, h⟩

end

/-- Reading a host leaves the end of the text. -/
lemma takeHost_suffix {inside : Bool} : (takeHost inside cs).2 <:+ cs := by
  induction cs generalizing inside with
  | nil => exact List.suffix_refl []
  | cons c cs ih =>
    rw [takeHost]
    split
    · exact List.suffix_refl _
    · exact ih.trans (List.suffix_cons c cs)

/-- So does reading what stands in front of an at sign. -/
lemma cutAtSign_suffix : ((cutAtSign cs).getD ([], cs)).2 <:+ cs := by
  rw [cutAtSign]
  split
  · exact List.suffix_refl cs
  · rw [← List.reverse_prefix]
    simp only [Option.getD_some, List.reverse_reverse]
    exact List.takeWhile_prefix _

/-- A port is read from the digits in front of what is left. -/
lemma readPort_inv {p : Option Nat} (h : readPort cs = .ok (p, rest)) :
    ∃ digits, cs = digits ++ rest ∧ ∀ c ∈ digits, c.isDigit = true := by
  obtain ⟨behind, eq⟩ := @List.takeWhile_prefix _ cs Char.isDigit
  have left : (cs.takeWhile Char.isDigit ++ behind).drop (cs.takeWhile Char.isDigit).length = behind :=
    List.drop_left
  rw [eq] at left
  refine ⟨cs.takeWhile Char.isDigit, ?_, fun c mc => List.mem_takeWhile_imp mc⟩
  simp only [readPort, left] at h
  split at h
  · cases h
  · split at h
    · cases h
    · split at h
      · cases h
        exact eq.symm
      · split at h
        · cases h
          exact eq.symm
        · cases h

/-- No authority ends at a digit. -/
lemma endsAuthority_digit (h : c.isDigit = true) : endsAuthority k c = false := by
  have other (d : Char) (nd : d.isDigit = false) : c ≠ d := by
    rintro rfl
    rw [h] at nd
    cases nd
  simp [endsAuthority, Kind.isSlash, endsPath, other '/' rfl, other '\\' rfl, other '?' rfl, other '#' rfl]

/-- An authority is read from what stands in front of the first character that ends it. -/
lemma readAuthority_inv (h : readAuthority scheme cs = .ok (a, rest)) :
    ∃ front, cs = front ++ rest ∧ ∀ c ∈ front, endsAuthority (Kind.ofScheme scheme) c = false := by
  have whole := (@List.takeWhile_append_dropWhile _ (fun c => !endsAuthority (Kind.ofScheme scheme) c) cs).symm
  have clear : ∀ c ∈ cs.takeWhile fun c => !endsAuthority (Kind.ofScheme scheme) c,
      endsAuthority (Kind.ofScheme scheme) c = false := by
    intro c mc
    have inside := List.mem_takeWhile_imp mc
    rwa [Bool.not_eq_true'] at inside
  simp only [readAuthority] at h
  generalize cs.takeWhile (fun c => !endsAuthority (Kind.ofScheme scheme) c) = front at h whole clear
  generalize cs.dropWhile (fun c => !endsAuthority (Kind.ofScheme scheme) c) = back at h whole
  have signed := @cutAtSign_suffix front
  generalize (cutAtSign front).getD ([], front) = cut at h signed
  have hosted := (@takeHost_suffix cut.2 false).trans signed
  replace h := ok_of_guard h
  obtain ⟨host, _, h⟩ := ok_bind h
  replace h := ok_of_guard h
  split at h
  case h_1 colon digits named =>
    -- The digits of the port may reach up to the end of what is in front, but not beyond it.
    obtain ⟨⟨p, left⟩, port, h⟩ := ok_bind h
    cases ok_of_guard h
    obtain ⟨ds, eq, digit⟩ := readPort_inv port
    rw [named] at hosted
    obtain ⟨w, rfl⟩ := (List.suffix_cons colon digits).trans hosted
    refine ⟨w ++ ds, ?_, ?_⟩
    · rw [whole, List.append_assoc, eq, List.append_assoc]
    · intro c mc
      rcases List.mem_append.1 mc with mc | mc
      · exact clear c (List.mem_append_left _ mc)
      · exact endsAuthority_digit (digit c mc)
  case h_2 =>
    obtain ⟨⟨p, left⟩, port, h⟩ := ok_bind h
    cases port
    cases ok_of_guard h
    exact ⟨front, whole, clear⟩

/-- No slash ends a path. -/
lemma endsPath_of_isSlash (h : Kind.web.isSlash c = true) : endsPath c = false := by
  simp only [Kind.isSlash, Kind.isSpecial, Bool.true_and, Bool.or_eq_true, decide_eq_true_eq] at h
  rcases h with rfl | rfl
  · decide
  · decide

/-- A base is read from a text without anything that ends a path, and what stands behind the text. -/
lemma read_inv (begins : Settings.begins "http://" s = true ∨ Settings.begins "https://" s = true)
    (h : read s = .ok (.url u)) :
    ∃ scheme a front rest, clean s.toList = front ++ rest ∧ (∀ c ∈ front, endsPath c = false) ∧
      Kind.ofScheme scheme = .web ∧ u = withPath scheme (some a) rest := by
  obtain ⟨scheme, text, name, whole, eq⟩ := read_of_begins begins
  rw [eq] at h
  cases after : readAfterSlashes scheme (text.dropWhile Kind.web.isSlash) with
  | error e =>
    rw [after] at h
    cases h
  | ok u' =>
    rw [after] at h
    cases h
    obtain ⟨⟨a, rest⟩, found, made⟩ := ok_bind after
    cases made
    obtain ⟨front, split, clear⟩ := readAuthority_inv found
    have slashes : ∀ c ∈ text.takeWhile Kind.web.isSlash, endsPath c = false :=
      fun c mc => endsPath_of_isSlash (List.mem_takeWhile_imp mc)
    have behind := @List.takeWhile_append_dropWhile _ Kind.web.isSlash text
    rw [split] at behind
    generalize text.takeWhile Kind.web.isSlash = slash at slashes behind
    refine ⟨scheme, a, scheme ++ [':', '/', '/'] ++ slash ++ front, rest, ?_, ?_, ofScheme_web name, rfl⟩
    · rw [whole, ← behind]
      simp only [List.append_assoc, List.cons_append, List.nil_append]
    · have named : ∀ c ∈ scheme ++ [':', '/', '/'], endsPath c = false := by
        rcases name with rfl | rfl
        · simp [endsPath]
        · simp [endsPath]
      intro c mc
      rcases List.mem_append.1 mc with mc | mc
      · rcases List.mem_append.1 mc with mc | mc
        · exact named c mc
        · exact slashes c mc
      · exact (Bool.or_eq_false_iff.1 (clear c mc)).2

/-! ## Cleaned texts -/

/-- Only blanks are lost when a text is cleaned. -/
lemma mem_clean (mc : c ∈ cs) (solid : ' ' < c) : c ∈ clean cs := by
  have stays {l : List Char} (ml : c ∈ l) : c ∈ l.dropWhile fun c => decide (c ≤ ' ') := by
    rw [← @List.takeWhile_append_dropWhile _ (fun c => decide (c ≤ ' ')) l, List.mem_append] at ml
    refine ml.resolve_left fun blank => ?_
    have le := List.mem_takeWhile_imp blank
    exact absurd solid (not_lt.2 (of_decide_eq_true le))
  refine List.mem_filter.2 ⟨?_, ?_⟩
  · exact List.mem_reverse.2 (stays (List.mem_reverse.2 (stays mc)))
  · have other (d : Char) (blank : d ≤ ' ') : c ≠ d := fun eq => absurd solid (not_lt.2 (eq ▸ blank))
    simp [other '\t' (by decide), other '\n' (by decide), other '\r' (by decide)]

/-- A slash at the end of a text stays there. -/
lemma getLast?_clean (h : cs.getLast? = some '/') : (clean cs).getLast? = some '/' := by
  obtain ⟨init, rfl⟩ := List.getLast?_eq_some_iff.1 h
  obtain ⟨init', eq⟩ : ∃ init', (init ++ ['/']).dropWhile (fun c => decide (c ≤ ' ')) = init' ++ ['/'] := by
    rw [List.dropWhile_append]
    split
    · exact ⟨[], rfl⟩
    · exact ⟨_, rfl⟩
  have solid : ('/' :: init'.reverse).dropWhile (fun c => decide (c ≤ ' ')) = '/' :: init'.reverse := rfl
  have turned : (init' ++ ['/']).reverse = '/' :: init'.reverse := List.reverse_concat
  have back : ('/' :: init'.reverse).reverse = init' ++ ['/'] := by
    rw [← turned, List.reverse_reverse]
  simp only [clean, eq, turned, solid, back, List.filter_append]
  exact List.getLast?_concat

/-! ## Paths that end with a slash -/

/-- A walk whose last segment is empty ends in an empty one. -/
lemma walk_last : (walk .web front (segments ++ [[]])).getLast? = some [] := by
  induction segments generalizing front with
  | nil =>
    show (front ++ [[]]).getLast? = some []
    exact List.getLast?_concat
  | cons s rest ih =>
    rw [List.cons_append, walk.eq_3 _ _ _ _ (by simp)]
    split
    · exact ih
    · split
      · exact ih
      · exact ih

/-- A text that is empty or ends in a slash leads to a directory. -/
lemma walkText_last (ends : cs = [] ∨ cs.getLast? = some '/') :
    (walkText .web front cs).getLast? = some [] := by
  rcases ends with rfl | ends
  · exact @walk_last front []
  · obtain ⟨init, rfl⟩ := List.getLast?_eq_some_iff.1 ends
    have slash : Kind.web.isSlash '/' = true := rfl
    simp only [walkText, segmentsOf, partsAt_concat slash, List.map_append]
    exact walk_last

/-- The path of a text that ends with a slash, without a query or a fragment, ends with a slash. -/
lemma withPath_last (web : Kind.ofScheme scheme = .web) (bare : ∀ c ∈ cs, endsPath c = false)
    (ends : cs = [] ∨ cs.getLast? = some '/') :
    (withPath scheme (some a) cs).path.getLast? = some [] := by
  have whole : cs.takeWhile (fun c => !endsPath c) = cs := by
    rw [List.takeWhile_eq_self_iff]
    intro c mc
    rw [bare c mc]
    rfl
  simp only [withPath, web, whole]
  split
  · exact walkText_last (.inl rfl)
  · rename_i c rest
    split
    · apply walkText_last
      cases rest with
      | nil => exact .inl rfl
      | cons d rest =>
        rw [List.getLast?_cons_cons] at ends
        exact .inr (ends.resolve_left (List.cons_ne_nil _ _))
    · exact walkText_last ends

/-! ## Queries and fragments -/

/-- What is left of a text after its path is a query or a fragment, if it is anything. -/
lemma readTail_bare (ends : ∀ c, cs.head? = some c → endsPath c = true) :
    (readTail k cs).1 = none ∧ (readTail k cs).2 = none ↔ cs = [] := by
  cases cs with
  | nil => exact ⟨fun _ => rfl, fun _ => ⟨rfl, rfl⟩⟩
  | cons c cs =>
    refine ⟨?_, nofun⟩
    rintro ⟨query, fragment⟩
    have mark := ends c rfl
    rw [endsPath, Bool.or_eq_true, decide_eq_true_eq, decide_eq_true_eq] at mark
    rcases mark with rfl | rfl
    · cases query
    · cases fragment

/-- There is neither query nor fragment if nothing ends the path. -/
lemma withPath_bare :
    (withPath scheme (some a) cs).query = none ∧ (withPath scheme (some a) cs).fragment = none ↔
      ∀ c ∈ cs, endsPath c = false := by
  have ends : ∀ c, (cs.dropWhile fun c => !endsPath c).head? = some c → endsPath c = true := by
    intro c head
    have stops := List.head?_dropWhile_not (fun c => !endsPath c) cs
    rw [head] at stops
    simpa using stops
  refine (readTail_bare ends).trans ?_
  rw [List.dropWhile_eq_nil_iff]
  simp

/-- A path is ended by a question mark or a hash sign. -/
lemma pathless_iff : (∀ c ∈ cs, endsPath c = false) ↔ '?' ∉ cs ∧ '#' ∉ cs := by
  constructor
  · intro pathless
    constructor
    · intro mark
      cases pathless _ mark
    · intro hash
      cases pathless _ hash
  · rintro ⟨mark, hash⟩ c mc
    rw [endsPath, Bool.or_eq_false_iff]
    exact ⟨decide_eq_false fun eq => mark (eq ▸ mc), decide_eq_false fun eq => hash (eq ▸ mc)⟩

/-- Nothing is written behind the path where there is neither query nor fragment. -/
lemma tail_eq_nil_iff : u.tail = [] ↔ u.query = none ∧ u.fragment = none := by
  rw [tail]
  constructor
  · intro nothing
    obtain ⟨query, fragment⟩ := List.append_eq_nil_iff.1 nothing
    constructor
    · cases q : u.query with
      | none => rfl
      | some q' =>
        rw [q] at query
        cases query
    · cases f : u.fragment with
      | none => rfl
      | some f' =>
        rw [f] at fragment
        cases fragment
  · rintro ⟨query, fragment⟩
    rw [query, fragment]
    rfl

/-! ## Bases whose written form ends with a slash -/

/-- Some segment is left of every walk that has one to go. -/
lemma walk_ne_nil (ne : segments ≠ []) : walk .web front segments ≠ [] := by
  induction segments generalizing front with
  | nil => exact absurd rfl ne
  | cons s rest ih =>
    cases rest with
    | nil =>
      rw [walk]
      split
      · exact List.append_ne_nil_of_right_ne_nil _ (List.cons_ne_nil _ _)
      · split
        · exact List.append_ne_nil_of_right_ne_nil _ (List.cons_ne_nil _ _)
        · exact List.append_ne_nil_of_right_ne_nil _ (List.cons_ne_nil _ _)
    | cons t rest =>
      have there {front : List Segment} := @ih front (List.cons_ne_nil t rest)
      rw [walk.eq_3 _ _ _ _ (List.cons_ne_nil t rest)]
      split
      · exact there
      · split
        · exact there
        · exact there

/-- Some segment is left of every text. -/
lemma walkText_ne_nil : walkText .web front cs ≠ [] := by
  have ne : segmentsOf .web cs ≠ [] := fun eq => partsAt_ne_nil (List.map_eq_nil_iff.1 eq)
  simp only [walkText, reduceCtorEq, if_false]
  exact walk_ne_nil ne

/-- A URL of the web has a path, if only a slash. -/
lemma withPath_path_ne_nil (web : Kind.ofScheme scheme = .web) :
    (withPath scheme (some a) cs).path ≠ [] := by
  simp only [withPath, web]
  split
  · exact walkText_ne_nil
  · split
    · exact walkText_ne_nil
    · exact walkText_ne_nil

/-- Behind the slashes stand an authority and what follows it. -/
lemma readAfterSlashes_inv (h : readAfterSlashes scheme cs = .ok u) :
    ∃ a rest, u = withPath scheme (some a) rest := by
  obtain ⟨⟨a, rest⟩, _, made⟩ := ok_bind h
  cases made
  exact ⟨a, rest, rfl⟩

/-- Files have a scheme of their own. -/
lemma readFile_scheme (h : readFile cs = .ok u) : u.scheme = "file".toList := by
  unfold readFile at h
  split at h
  · simp only at h
    split at h
    · split at h
      · cases h
        rfl
      · split at h
        · cases h
          rfl
        · split at h
          · cases h
          · split at h
            · cases h
              rfl
            · cases h
              rfl
    · cases h
      rfl
  · cases h
    rfl

/-- What is read as a URL was one before it was called one. -/
lemma map_url_inv {m : Except Error Url} (h : m.map Reading.url = .ok (.url u)) : m = .ok u := by
  cases m with
  | error e => cases h
  | ok v =>
    cases h
    rfl

/-- Other URLs keep the scheme that they are read with. -/
lemma readOther_scheme (h : readOther scheme cs = .ok (.url u)) : u.scheme = scheme := by
  unfold readOther at h
  split at h
  · obtain ⟨a, rest, rfl⟩ := readAfterSlashes_inv (map_url_inv h)
    rfl
  · cases h
    rfl
  · cases h

/-- A URL of the web is read as an authority and a path, whatever the text that it is read from. -/
lemma read_web (h : read s = .ok (.url u)) (web : u.kind = .web) :
    u.Solid ∧ u.path ≠ [] := by
  unfold read at h
  split at h
  case h_1 => cases h
  case h_2 scheme rest _ =>
    split at h
    case h_1 =>
      rw [kind, readFile_scheme (map_url_inv h)] at web
      cases web
    case h_2 name =>
      have read := map_url_inv h
      obtain ⟨a, rest, made⟩ := readAfterSlashes_inv read
      refine ⟨readAfterSlashes_solid name read, ?_⟩
      rw [made]
      exact withPath_path_ne_nil name
    case h_3 name =>
      rw [kind, readOther_scheme h, name] at web
      cases web

/-- A written path that ends with a slash has an empty segment at its end. -/
lemma getLast?_of_writePath {path : List Segment} (proper : ∀ x ∈ path, Proper x) (ne : path ≠ [])
    (slash : (writePath path).getLast? = some '/') : path.getLast? = some [] := by
  cases h : path.getLast? with
  | none => exact absurd (List.getLast?_eq_none_iff.1 h) ne
  | some last =>
    obtain ⟨front, rfl⟩ := List.getLast?_eq_some_iff.1 h
    cases last with
    | nil => rfl
    | cons c cs =>
      -- Otherwise the slash would be a character of the segment.
      exfalso
      have written : writePath (front ++ [c :: cs]) = (writePath front ++ ['/']) ++ (c :: cs) := by
        rw [writePath, List.flatMap_append, ← writePath, List.flatMap_singleton, List.append_assoc]
        rfl
      rw [written, List.getLast?_append_of_ne_nil _ (List.cons_ne_nil c cs)] at slash
      have inside := (proper (c :: cs) List.mem_concat_self).slashless '/' (List.mem_of_getLast? slash)
      cases inside

/-- A base whose written form ends with a slash, which is in neither a query nor a fragment, is a
directory. -/
lemma Solid.directory (solid : u.Solid) (ne : u.path ≠ []) (query : u.query = none)
    (fragment : u.fragment = none) (slash : u.chars.getLast? = some '/') : u.Directory := by
  obtain ⟨a, authority⟩ := solid.authority
  have written : writePath u.path ≠ [] := by
    obtain ⟨s, path, eq⟩ := List.exists_cons_of_ne_nil ne
    rw [eq]
    exact List.cons_ne_nil _ _
  rw [chars_eq authority, tail_eq_nil_iff.2 ⟨query, fragment⟩, List.append_nil,
    List.getLast?_append_of_ne_nil _ written] at slash
  exact ⟨solid, getLast?_of_writePath solid.proper ne slash, query, fragment⟩

end Url

/-! ## Settings -/

namespace Settings

variable {s : Settings} {o : Origin}

/-- How the base of valid settings is read. -/
lemma toOrigin_inv (valid : s.check = .ok ()) (built : s.toOrigin = .ok o) :
    ∃ scheme a front rest, Url.clean s.origin.baseUrl.toList = front ++ rest ∧
      (∀ c ∈ front, Url.endsPath c = false) ∧ (∀ c ∈ rest, c ∈ s.origin.baseUrl.toList) ∧
      Url.Kind.ofScheme scheme = .web ∧ o.base = Url.withPath scheme (some a) rest := by
  obtain ⟨scheme, a, front, rest, whole, clear, web, eq⟩ :=
    Url.read_inv (begins_of_check valid) (toOrigin_read built)
  refine ⟨scheme, a, front, rest, whole, clear, ?_, web, eq⟩
  intro c mc
  apply Url.clean_sublist.subset
  rw [whole]
  exact List.mem_append_right front mc

/-- The base of valid settings has neither a query nor a fragment exactly if its text has neither a
question mark nor a hash. -/
lemma toOrigin_bare (valid : s.check = .ok ()) (built : s.toOrigin = .ok o) :
    o.base.query = none ∧ o.base.fragment = none ↔
      ∀ c ∈ s.origin.baseUrl.toList, Url.endsPath c = false := by
  obtain ⟨scheme, a, front, rest, whole, clear, inside, _, base⟩ := toOrigin_inv valid built
  rw [base, Url.withPath_bare]
  constructor
  · intro bare c mc
    cases mark : Url.endsPath c with
    | false => rfl
    | true =>
      have solid : ' ' < c := by
        rw [Url.endsPath, Bool.or_eq_true, decide_eq_true_eq, decide_eq_true_eq] at mark
        rcases mark with rfl | rfl
        · decide
        · decide
      -- The mark is still there when the text is cleaned, and the authority ends in front of it.
      have kept := Url.mem_clean mc solid
      rw [whole] at kept
      rcases List.mem_append.1 kept with kept | kept
      · rw [← mark, clear c kept]
      · rw [← mark, bare c kept]
  · intro bare c mc
    exact bare c (inside c mc)

/-- A base without a question mark and a hash is a directory. -/
lemma toOrigin_directory (valid : s.check = .ok ()) (built : s.toOrigin = .ok o)
    (bare : ∀ c ∈ s.origin.baseUrl.toList, Url.endsPath c = false) : o.base.Directory := by
  obtain ⟨query, fragment⟩ := (toOrigin_bare valid built).2 bare
  refine ⟨toOrigin_solid valid built, ?_, query, fragment⟩
  obtain ⟨scheme, a, front, rest, whole, _, inside, web, base⟩ := toOrigin_inv valid built
  have slash := Url.getLast?_clean (check_iff.1 valid).directory
  rw [base]
  apply Url.withPath_last web
  · intro c mc
    exact bare c (inside c mc)
  · rw [whole, List.getLast?_append] at slash
    cases rest with
    | nil => exact .inl rfl
    | cons c rest =>
      rw [List.getLast?_cons] at slash
      right
      rw [List.getLast?_cons]
      exact slash

end Settings

end EdgeCache
