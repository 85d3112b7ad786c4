import EdgeCache.Proofs.Url.Confinement
import Mathlib.Data.Char
import Mathlib.Data.List.Basic
import Mathlib.Data.List.TakeWhile

/-!
# Joining a text to a base

A text of characters that a path can hold, without dot segments, is joined to a base as it stands: the
walk meets its parts one by one and goes down with each of them. If the base is a directory, the address
is the base's text with the text behind it.
-/

namespace EdgeCache

namespace Url

variable {cs : List Char} {base : Url} {c : Char} {front path segments : List Segment}

/-! ## What is read as it is -/

/-- A text that a path can hold as it is: nothing in it is encoded or taken for a slash, and none of its
parts is a dot segment. -/
structure Verbatim (cs : List Char) : Prop where
  kept : ∀ c ∈ cs, inPathSet c = false
  forward : ∀ c ∈ cs, c ≠ '\\'
  dotless : ∀ part ∈ partsAt (· = '/') cs, isSingleDot part = false ∧ isDoubleDot part = false

/-- Blanks, and what ends a path, are encoded in a path. -/
lemma of_inPathSet (kept : inPathSet c = false) : ' ' < c ∧ endsPath c = false := by
  simp only [inPathSet, inFragmentSet, inControlSet, Bool.or_eq_false_iff,
    decide_eq_false_iff_not] at kept
  obtain ⟨⟨⟨⟨fragment, hash⟩, mark⟩, _⟩, _⟩ := kept
  obtain ⟨⟨⟨⟨⟨⟨control, _⟩, blank⟩, _⟩, _⟩, _⟩, _⟩ := fragment
  refine ⟨lt_of_le_of_ne (not_lt.1 control) (Ne.symm blank), ?_⟩
  rw [endsPath, Bool.or_eq_false_iff]
  exact ⟨decide_eq_false mark, decide_eq_false hash⟩

/-- Cleaning a text only takes characters out of it. -/
lemma clean_sublist : (clean cs).Sublist cs := by
  refine List.filter_sublist.trans ?_
  rw [← List.reverse_sublist, List.reverse_reverse]
  refine (List.dropWhile_suffix _).sublist.trans ?_
  rw [List.reverse_sublist]
  exact (List.dropWhile_suffix _).sublist

/-- A text without blanks is read as it is. -/
lemma clean_of_solid (solid : ∀ c ∈ cs, ' ' < c) : clean cs = cs := by
  obtain ⟨rest, eq⟩ := @clean_append [] cs solid
  rw [List.append_nil] at eq
  apply clean_sublist.eq_of_length_le
  rw [eq, List.length_append]
  omega

/-- Characters that are kept are written as they are. -/
lemma encode_of_kept {set : Char → Bool} (kept : ∀ c ∈ cs, set c = false) : encode set cs = cs := by
  induction cs with
  | nil => rfl
  | cons c cs ih =>
    have here : encodeChar set c = [c] := by
      rw [encodeChar, kept c List.mem_cons_self]
      rfl
    have there := ih fun d md => kept d (List.mem_cons_of_mem _ md)
    show encodeChar set c ++ encode set cs = c :: cs
    rw [here, there]
    rfl

/-! ## Walks that only go down -/

/-- A walk without dot segments goes down with every segment. -/
lemma walk_dotless (dotless : ∀ s ∈ segments, isSingleDot s = false ∧ isDoubleDot s = false) :
    walk .web front segments = front ++ segments := by
  induction segments generalizing front with
  | nil => exact (List.append_nil front).symm
  | cons s rest ih =>
    obtain ⟨single, double⟩ := dotless s List.mem_cons_self
    have there := @ih (front ++ [s]) fun x mx => dotless x (List.mem_cons_of_mem _ mx)
    rw [List.append_assoc] at there
    cases rest with
    | nil =>
      rw [walk, double, single]
      rfl
    | cons t rest =>
      rw [walk.eq_3 _ _ _ _ (List.cons_ne_nil t rest), double, single]
      exact there

/-- The segments of such a text are its parts. -/
lemma Verbatim.segmentsOf (h : Verbatim cs) : segmentsOf .web cs = partsAt (· = '/') cs := by
  have same : partsAt Kind.web.isSlash cs = partsAt (· = '/') cs := by
    apply partsAt_congr
    intro c mc
    simp [Kind.isSlash, h.forward c mc]
  rw [Url.segmentsOf, same]
  refine (List.map_congr_left fun part mp => ?_).trans (List.map_id _)
  exact encode_of_kept fun c mc => h.kept c (mem_of_mem_partsAt mp mc)

/-- The dot in front of a relative path stays where it is. -/
lemma walkText_dot : walkText .web front ('.' :: '/' :: cs) = walkText .web front cs := by
  have ne : Url.segmentsOf .web cs ≠ [] := fun eq => partsAt_ne_nil (List.map_eq_nil_iff.1 eq)
  have segments : Url.segmentsOf .web ('.' :: '/' :: cs) = ['.'] :: Url.segmentsOf .web cs := rfl
  rw [walkText, segments, walk.eq_3 _ _ _ _ ne]
  rfl

/-- Below a base the last segment is left. -/
lemma frontOf_web : frontOf .web path = path.dropLast := by
  rw [frontOf]
  split
  case h_1 => rfl
  case h_2 nothing =>
    rw [List.getLast?_eq_none_iff.1 nothing]
    rfl

/-- Below a base such a text takes the place of the last segment. -/
lemma Verbatim.below (h : Verbatim cs) (web : base.kind = .web) :
    base.below cs =
      { base with path := base.path.dropLast ++ partsAt (· = '/') cs, query := none, fragment := none } := by
  have plain : ∀ c ∈ '.' :: '/' :: cs, ' ' < c ∧ endsPath c = false := by
    intro c mc
    rcases List.mem_cons.1 mc with rfl | mc
    · decide
    · rcases List.mem_cons.1 mc with rfl | mc
      · decide
      · exact of_inPathSet (h.kept c mc)
  have inside : ∀ c ∈ '.' :: '/' :: cs, (!endsPath c) = true := by
    intro c mc
    rw [(plain c mc).2]
    rfl
  have whole : clean ('.' :: '/' :: cs) = '.' :: '/' :: cs := clean_of_solid fun c mc => (plain c mc).1
  have before := List.takeWhile_eq_self_iff.2 inside
  have behind := List.dropWhile_eq_nil_iff.2 inside
  have walked : walkText .web base.path.dropLast cs =
      base.path.dropLast ++ partsAt (· = '/') cs := by
    rw [walkText, h.segmentsOf, walk_dotless h.dotless]
    rfl
  simp only [Url.below, whole, before, behind, web, frontOf_web, walkText_dot, walked]
  rfl

/-! ## Written paths -/

/-- A text that is cut at its slashes is written with them. -/
lemma writePath_partsAt : writePath (partsAt (· = '/') cs) = '/' :: cs := by
  induction cs with
  | nil => rfl
  | cons c cs ih =>
    cases slash : decide (c = '/') with
    | true =>
      obtain rfl := of_decide_eq_true slash
      show '/' :: writePath (partsAt (· = '/') cs) = '/' :: '/' :: cs
      rw [ih]
    | false =>
      obtain ⟨first, others, eq, whole⟩ : ∃ first others, partsAt (· = '/') cs = first :: others ∧
        partsAt (· = '/') (c :: cs) = (c :: first) :: others := partsAt_cons slash
      rw [eq] at ih
      have same : first ++ writePath others = cs := (List.cons.inj ih).2
      rw [whole]
      show '/' :: c :: (first ++ writePath others) = '/' :: c :: cs
      rw [same]

/-! ## Directories -/

/-- A base that is a directory: its path ends with a slash, and nothing follows the path. -/
structure Directory (u : Url) : Prop extends Solid u where
  last : u.path.getLast? = some []
  query : u.query = none
  fragment : u.fragment = none

namespace Directory

/-- The path of a directory ends in an empty segment. -/
lemma path_eq (dir : base.Directory) : base.path.dropLast ++ [[]] = base.path :=
  List.dropLast_append_getLast? _ dir.last

/-- The path of an address below a directory is the directory's path and the text behind it. -/
lemma writePath_below (dir : base.Directory) (h : Verbatim cs) :
    writePath (base.below cs).path = writePath base.path ++ cs := by
  rw [h.below dir.web]
  show writePath (base.path.dropLast ++ partsAt (· = '/') cs) = writePath base.path ++ cs
  calc writePath (base.path.dropLast ++ partsAt (· = '/') cs)
      = writePath base.path.dropLast ++ '/' :: cs := by
        rw [writePath, List.flatMap_append, ← writePath, ← writePath, writePath_partsAt]
    _ = writePath (base.path.dropLast ++ [[]]) ++ cs := by
        rw [writePath, writePath, List.flatMap_append, List.append_assoc]
        rfl
    _ = writePath base.path ++ cs := by rw [dir.path_eq]

/-- An address below a directory is written as the directory with the text behind it. -/
lemma chars_below (dir : base.Directory) (h : Verbatim cs) :
    (base.below cs).chars = base.chars ++ cs := by
  obtain ⟨a, authority⟩ := dir.authority
  have bare : base.tail = [] := by
    rw [tail, dir.query, dir.fragment]
    rfl
  have path := dir.writePath_below h
  have below := h.below dir.web
  have bare' : (base.below cs).tail = [] := by
    rw [below]
    rfl
  have scheme : (base.below cs).scheme = base.scheme := rfl
  have authority' : (base.below cs).authority = some a := authority
  rw [chars_eq authority, chars_eq authority', path, bare, bare', scheme]
  simp only [List.append_nil, List.append_assoc]

/-- A fragment alone leads to the directory itself. -/
lemma below_fragment (dir : base.Directory) :
    ∃ f, base.below ('#' :: cs) = { base with fragment := some f } := by
  obtain ⟨rest, eq⟩ : ∃ rest, clean (['.', '/', '#'] ++ cs) = ['.', '/', '#'] ++ rest :=
    clean_append (by simp)
  have path : walkText .web base.path.dropLast ['.', '/'] = base.path := by
    rw [walkText_dot]
    exact dir.path_eq
  have before : (['.', '/', '#'] ++ rest).takeWhile (fun c => !endsPath c) = ['.', '/'] := rfl
  have behind : (['.', '/', '#'] ++ rest).dropWhile (fun c => !endsPath c) = '#' :: rest := rfl
  refine ⟨encode inFragmentSet rest, ?_⟩
  show base.below ('#' :: cs) = ⟨base.scheme, base.authority, base.path, base.query, _⟩
  rw [dir.query]
  simp only [List.cons_append, List.nil_append] at eq before behind
  simp only [Url.below, eq, before, behind, dir.web, frontOf_web, path]
  rfl

/-- A fragment stands behind the text of its base. -/
lemma chars_fragment (dir : base.Directory) (f : List Char) :
    ({ base with fragment := some f } : Url).chars = base.chars ++ '#' :: f := by
  simp only [chars, beforeQuery, lead, dir.query, dir.fragment, Option.map_none, Option.map_some,
    Option.getD_none, Option.getD_some, List.append_nil]

end Directory

end Url

end EdgeCache
