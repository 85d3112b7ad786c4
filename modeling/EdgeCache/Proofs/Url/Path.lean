import EdgeCache.Url.Basic
import Mathlib.Tactic.Lemma

/-!
# Paths and their segments

A path that has been walked has no dot segments left, however the dots are spelled, and none of its
segments holds a mark that would end it. So the written path falls apart at its slashes into the
segments that it was written from, and nothing behind it can be taken for a part of it.
-/

namespace EdgeCache

variable {mark : Char → Bool} {s cs rest : List Char} {m : Char}

/-! ## Parts -/

/-- The parts between the marks hold none. -/
lemma partsAt_unmarked : ∀ part ∈ partsAt mark cs, ∀ c ∈ part, mark c = false := by
  induction cs with
  | nil =>
    intro part mp c mc
    rw [partsAt, List.mem_singleton] at mp
    rw [mp] at mc
    cases mc
  | cons d cs ih =>
    rw [partsAt]
    cases h : mark d with
    | true =>
      intro part mp
      rcases List.mem_cons.1 mp with rfl | mp
      · intro c mc
        cases mc
      · exact ih part mp
    | false =>
      cases parts : partsAt mark cs with
      | nil =>
        intro part mp c mc
        obtain rfl : part = [d] := by simpa using mp
        obtain rfl : c = d := by simpa using mc
        exact h
      | cons first parts' =>
        rw [parts] at ih
        intro part mp c mc
        rcases List.mem_cons.1 mp with rfl | mp
        · rcases List.mem_cons.1 mc with rfl | mc
          · exact h
          · exact ih first List.mem_cons_self c mc
        · exact ih part (List.mem_cons_of_mem _ mp) c mc

lemma partsAt_of_unmarked (unmarked : ∀ c ∈ s, mark c = false) : partsAt mark s = [s] := by
  induction s with
  | nil => rfl
  | cons c s ih =>
    have here : mark c = false := unmarked c List.mem_cons_self
    have there := ih fun c mc => unmarked c (List.mem_cons_of_mem _ mc)
    simp only [partsAt, here, there, Bool.false_eq_true, if_false]

/-- The first part ends at the first mark. -/
lemma partsAt_append (unmarked : ∀ c ∈ s, mark c = false) (h : mark m = true) :
    partsAt mark (s ++ m :: rest) = s :: partsAt mark rest := by
  induction s with
  | nil => simp only [List.nil_append, partsAt, h, if_true]
  | cons c s ih =>
    have here : mark c = false := unmarked c List.mem_cons_self
    have there := ih fun c mc => unmarked c (List.mem_cons_of_mem _ mc)
    simp only [List.cons_append, partsAt, here, there, Bool.false_eq_true, if_false]

lemma partsAt_ne_nil : partsAt mark cs ≠ [] := by
  cases cs with
  | nil => exact List.cons_ne_nil _ _
  | cons c cs =>
    rw [partsAt]
    split
    · exact List.cons_ne_nil _ _
    · split <;> exact List.cons_ne_nil _ _

/-- A character that marks nothing belongs to the first part. -/
lemma partsAt_cons (h : mark m = false) :
    ∃ first others, partsAt mark cs = first :: others ∧
      partsAt mark (m :: cs) = (m :: first) :: others := by
  obtain ⟨first, others, eq⟩ := List.exists_cons_of_ne_nil (@partsAt_ne_nil mark cs)
  refine ⟨first, others, eq, ?_⟩
  simp only [partsAt, h, eq, Bool.false_eq_true, if_false]

/-- A character is a mark or in one of the parts. -/
lemma mem_partsAt {c : Char} (mc : c ∈ cs) :
    mark c = true ∨ ∃ part ∈ partsAt mark cs, c ∈ part := by
  induction cs with
  | nil => cases mc
  | cons d cs ih =>
    cases h : mark d with
    | true =>
      rw [partsAt, if_pos h]
      rcases List.mem_cons.1 mc with rfl | mc
      · exact .inl h
      · refine (ih mc).imp_right ?_
        rintro ⟨part, mp, mc⟩
        exact ⟨part, List.mem_cons_of_mem _ mp, mc⟩
    | false =>
      obtain ⟨first, others, eq, whole⟩ := partsAt_cons h
      rw [eq] at ih
      rw [whole]
      rcases List.mem_cons.1 mc with rfl | mc
      · exact .inr ⟨_, List.mem_cons_self, List.mem_cons_self⟩
      · refine (ih mc).imp_right ?_
        rintro ⟨part, mp, mc⟩
        rcases List.mem_cons.1 mp with rfl | mp
        · exact ⟨_, List.mem_cons_self, List.mem_cons_of_mem _ mc⟩
        · exact ⟨part, List.mem_cons_of_mem _ mp, mc⟩

/-- What the parts are made of is in the text. -/
lemma mem_of_mem_partsAt {part : List Char} {c : Char} (mp : part ∈ partsAt mark cs) (mc : c ∈ part) :
    c ∈ cs := by
  induction cs generalizing part with
  | nil =>
    obtain rfl := List.mem_singleton.1 mp
    cases mc
  | cons d cs ih =>
    cases h : mark d with
    | true =>
      rw [partsAt, if_pos h] at mp
      rcases List.mem_cons.1 mp with rfl | mp
      · cases mc
      · exact List.mem_cons_of_mem _ (ih mp mc)
    | false =>
      obtain ⟨first, others, eq, whole⟩ := @partsAt_cons mark cs _ h
      rw [whole] at mp
      rw [eq] at ih
      rcases List.mem_cons.1 mp with rfl | mp
      · rcases List.mem_cons.1 mc with rfl | mc
        · exact List.mem_cons_self
        · exact List.mem_cons_of_mem _ (ih List.mem_cons_self mc)
      · exact List.mem_cons_of_mem _ (ih (List.mem_cons_of_mem _ mp) mc)

/-- Behind a mark at the end there is an empty part. -/
lemma partsAt_concat (h : mark m = true) : partsAt mark (cs ++ [m]) = partsAt mark cs ++ [[]] := by
  induction cs with
  | nil => simp only [List.nil_append, partsAt, h, if_true, List.singleton_append]
  | cons c cs ih =>
    cases hc : mark c with
    | true =>
      rw [List.cons_append, partsAt, if_pos hc, partsAt, if_pos hc, ih]
      rfl
    | false =>
      obtain ⟨first, others, eq, whole⟩ : ∃ first others, partsAt mark cs = first :: others ∧
        partsAt mark (c :: cs) = (c :: first) :: others := partsAt_cons hc
      obtain ⟨first', others', eq', whole'⟩ : ∃ first others,
        partsAt mark (cs ++ [m]) = first :: others ∧
        partsAt mark (c :: (cs ++ [m])) = (c :: first) :: others := partsAt_cons hc
      rw [eq, eq'] at ih
      obtain ⟨rfl, rfl⟩ := List.cons.inj ih
      rw [List.cons_append, whole, whole']
      rfl

/-- Marks that are the same on a text cut it in the same way. -/
lemma partsAt_congr {mark' : Char → Bool} (same : ∀ c ∈ cs, mark c = mark' c) :
    partsAt mark cs = partsAt mark' cs := by
  induction cs with
  | nil => rfl
  | cons c cs ih =>
    have here : mark c = mark' c := same c List.mem_cons_self
    have there := ih fun d md => same d (List.mem_cons_of_mem _ md)
    rw [partsAt, partsAt, here, there]

/-- What ends at its first mark begins with whatever unmarked text the whole begins with. -/
lemma prefix_of_prefix_append {p t q t' : List Char} (h : p ++ t <+: q ++ t')
    (unmarked : ∀ c ∈ p, mark c = false) (ends : ∀ c, t'.head? = some c → mark c = true) :
    p <+: q := by
  have whole : p <+: q ++ t' := (List.prefix_append p t).trans h
  rcases List.prefix_or_prefix_of_prefix whole (List.prefix_append q t') with le | ⟨d, rfl⟩
  · exact le
  · -- What `p` has in excess of `q` would begin with the mark at which `q` ends.
    have rest : d <+: t' := (List.prefix_append_right_inj q).1 whole
    cases d with
    | nil => exact (List.append_nil q).symm ▸ List.prefix_refl q
    | cons c d =>
      obtain ⟨t'', rfl⟩ := rest
      have marked := ends c rfl
      rw [unmarked c (List.mem_append_right q List.mem_cons_self)] at marked
      cases marked

namespace Url

/-! ## Dots -/

lemma eq_nil_of_decode (h : decode s = []) : s = [] := by
  rcases s with _ | ⟨c, s⟩
  · rfl
  · exfalso
    unfold decode at h
    split at h
    · split at h <;> cases h
    · rename_i eq
      cases eq
      have len := congrArg List.length (List.append_eq_nil_iff.1 h).1
      rw [String.length_utf8EncodeChar] at len
      exact absurd len (Nat.ne_of_gt (Char.utf8Size_pos c))
    · rename_i eq
      cases eq

/-- A hexadecimal digit by its code point. -/
lemma hexValue?_cases {c : Char} {x : Nat} (h : hexValue? c = some x) :
    (48 ≤ c.toNat ∧ c.toNat ≤ 57 ∧ x + 48 = c.toNat) ∨
      (97 ≤ c.toNat ∧ c.toNat ≤ 102 ∧ x + 87 = c.toNat) ∨
      (65 ≤ c.toNat ∧ c.toNat ≤ 70 ∧ x + 55 = c.toNat) := by
  have z : ('0' : Char).toNat = 48 := rfl
  have n : ('9' : Char).toNat = 57 := rfl
  have a : ('a' : Char).toNat = 97 := rfl
  have f : ('f' : Char).toNat = 102 := rfl
  have A : ('A' : Char).toNat = 65 := rfl
  have F : ('F' : Char).toNat = 70 := rfl
  simp only [hexValue?, Bool.and_eq_true, decide_eq_true_eq, Char.le_def, UInt32.le_iff_toNat_le,
    Char.toNat_val] at h
  split at h
  · cases h
    omega
  · split at h
    · cases h
      omega
    · split at h
      · cases h
        omega
      · cases h

/-- A byte that two digits write as a dot is written `2e`. -/
lemma dot_digits {a b : Char} {x y : Nat} (ha : hexValue? a = some x) (hb : hexValue? b = some y)
    (dot : (16 * x + y).toUInt8 = 46) : a = '2' ∧ (b = 'e' ∨ b = 'E') := by
  have value : (16 * x + y) % 256 = 46 := congrArg UInt8.toNat dot
  have ca := hexValue?_cases ha
  have cb := hexValue?_cases hb
  have ea : a.toNat = ('2' : Char).toNat := by
    have two : ('2' : Char).toNat = 50 := rfl
    omega
  have eb : b.toNat = ('e' : Char).toNat ∨ b.toNat = ('E' : Char).toNat := by
    have lower : ('e' : Char).toNat = 101 := rfl
    have upper : ('E' : Char).toNat = 69 := rfl
    omega
  exact ⟨Char.toNat_inj.1 ea, eb.imp Char.toNat_inj.1 Char.toNat_inj.1⟩

/-- A character whose first byte is a dot's is a dot. -/
lemma eq_dot_of_utf8 {c : Char} {bs bs' : List UInt8}
    (h : String.utf8EncodeChar c ++ bs = 46 :: bs') : c = '.' ∧ bs = bs' := by
  have first (n : Nat) (e : UInt8.ofNat n = 46) : n % 256 = 46 := congrArg UInt8.toNat e
  simp only [String.utf8EncodeChar] at h
  split at h
  · obtain ⟨byte, rfl⟩ := List.cons.inj h
    have value := first _ byte
    have same : c.toNat = ('.' : Char).toNat := by
      have dot : ('.' : Char).toNat = 46 := rfl
      have : c.val.toNat = c.toNat := rfl
      omega
    exact ⟨Char.toNat_inj.1 same, rfl⟩
  · -- The first of several bytes is never below 192.
    exfalso
    split at h
    · have value := first _ (List.cons.inj h).1
      omega
    · split at h
      · have value := first _ (List.cons.inj h).1
        omega
      · have value := first _ (List.cons.inj h).1
        omega

/-- What is read as a dot is a dot, encoded or not. -/
lemma dropDot?_of_decode {bs : List UInt8} (h : decode s = 46 :: bs) :
    ∃ rest, dropDot? s = some rest ∧ decode rest = bs := by
  unfold decode at h
  split at h
  · split at h
    · rename_i x y hx hy
      obtain ⟨dot, rfl⟩ := List.cons.inj h
      obtain ⟨rfl, rfl | rfl⟩ := dot_digits hx hy dot
      · exact ⟨_, rfl, rfl⟩
      · exact ⟨_, rfl, rfl⟩
    · exact absurd (List.cons.inj h).1 (by decide)
  · obtain ⟨rfl, rfl⟩ := eq_dot_of_utf8 h
    exact ⟨_, rfl, rfl⟩
  · cases h

/-- A segment that is read as one dot is a dot segment. -/
lemma decode_ne_dot (h : isSingleDot s = false) : decode s ≠ [46] := by
  intro eq
  obtain ⟨rest, drop, nothing⟩ := dropDot?_of_decode eq
  obtain rfl := eq_nil_of_decode nothing
  rw [isSingleDot, drop] at h
  cases h

/-- A segment that is read as two dots is a dot segment. -/
lemma decode_ne_dots (h : isDoubleDot s = false) : decode s ≠ [46, 46] := by
  intro eq
  obtain ⟨rest, drop, one⟩ := dropDot?_of_decode eq
  obtain ⟨rest', drop', nothing⟩ := dropDot?_of_decode one
  obtain rfl := eq_nil_of_decode nothing
  rw [isDoubleDot, drop, Option.bind_some, drop'] at h
  cases h

/-! ## Proper segments -/

/-- A segment as it stands in a path of the web: no dot segment, and without anything that ends a
segment or a path. -/
structure Proper (s : Segment) : Prop where
  single : isSingleDot s = false
  double : isDoubleDot s = false
  slashless : ∀ c ∈ s, Kind.web.isSlash c = false
  pathless : ∀ c ∈ s, endsPath c = false

lemma Proper.nil : Proper [] := ⟨rfl, rfl, nofun, nofun⟩

lemma hexDigit_plain {n : Nat} (lt : n < 16) :
    Kind.web.isSlash (hexDigit n) = false ∧ endsPath (hexDigit n) = false := by
  have all : ∀ n : Fin 16,
      Kind.web.isSlash (hexDigit n) = false ∧ endsPath (hexDigit n) = false := by decide
  exact all ⟨n, lt⟩

lemma encodeByte_plain {b : UInt8} {c : Char} (mc : c ∈ encodeByte b) :
    Kind.web.isSlash c = false ∧ endsPath c = false := by
  have lt : b.toNat < 256 := b.toNat_lt
  simp only [encodeByte, List.mem_cons, List.not_mem_nil, or_false] at mc
  rcases mc with rfl | rfl | rfl
  · decide
  · exact hexDigit_plain (by omega)
  · exact hexDigit_plain (by omega)

/-- What is encoded for a path marks nothing that was not there before. -/
lemma encode_plain {part : List Char} (slashless : ∀ c ∈ part, Kind.web.isSlash c = false) :
    ∀ c ∈ encode inPathSet part, Kind.web.isSlash c = false ∧ endsPath c = false := by
  intro c mc
  obtain ⟨d, md, mc⟩ := List.mem_flatMap.1 mc
  rw [encodeChar] at mc
  split at mc
  case isTrue =>
    obtain ⟨b, _, mc⟩ := List.mem_flatMap.1 mc
    exact encodeByte_plain mc
  case isFalse kept =>
    obtain rfl := List.mem_singleton.1 mc
    refine ⟨slashless c md, ?_⟩
    -- The marks that end a path are among the characters that are encoded.
    simp only [inPathSet, Bool.or_eq_true, decide_eq_true_eq, not_or] at kept
    simp only [endsPath, Bool.or_eq_false_iff, decide_eq_false_iff_not]
    exact ⟨kept.1.1.2, kept.1.1.1.2⟩

lemma segmentsOf_plain :
    ∀ s ∈ segmentsOf .web cs, ∀ c ∈ s, Kind.web.isSlash c = false ∧ endsPath c = false := by
  intro s ms
  obtain ⟨part, mp, rfl⟩ := List.mem_map.1 ms
  exact encode_plain (partsAt_unmarked part mp)

/-! ## Walks -/

variable {front path : List Segment}

/-- Going up leads through segments that are there. -/
lemma mem_of_mem_ascend {x : Segment} (mx : x ∈ ascend front) : x ∈ front := by
  rw [ascend] at mx
  split at mx
  · split at mx
    · exact mx
    · exact List.dropLast_subset front mx
  · exact mx

/-- A walk over segments that mark nothing meets proper segments only, if it starts from such. -/
lemma walk_proper {segments : List Segment} (proper : ∀ s ∈ front, Proper s)
    (plain : ∀ s ∈ segments, ∀ c ∈ s, Kind.web.isSlash c = false ∧ endsPath c = false) :
    ∀ s ∈ walk .web front segments, Proper s := by
  have up {front : List Segment} (proper : ∀ s ∈ front, Proper s) : ∀ s ∈ ascend front, Proper s :=
    fun s ms => proper s (mem_of_mem_ascend ms)
  have add {front : List Segment} {x : Segment} (proper : ∀ s ∈ front, Proper s) (px : Proper x) :
      ∀ s ∈ front ++ [x], Proper s := by
    intro s ms
    rcases List.mem_append.1 ms with ms | ms
    · exact proper s ms
    · rw [List.mem_singleton.1 ms]
      exact px
  induction segments generalizing front with
  | nil => exact proper
  | cons x rest ih =>
    have here := plain x List.mem_cons_self
    have there : ∀ s ∈ rest, _ := fun s ms => plain s (List.mem_cons_of_mem _ ms)
    have down (double : ¬isDoubleDot x = true) (single : ¬isSingleDot x = true) :
        ∀ s ∈ descend .web front x, Proper s :=
      add proper ⟨Bool.eq_false_iff.2 single, Bool.eq_false_iff.2 double,
        fun c mc => (here c mc).1, fun c mc => (here c mc).2⟩
    cases rest with
    | nil =>
      rw [walk]
      split
      case isTrue => exact add (up proper) .nil
      case isFalse double =>
        split
        case isTrue => exact add proper .nil
        case isFalse single => exact down double single
    | cons y rest =>
      rw [walk.eq_3 _ _ _ _ (List.cons_ne_nil y rest)]
      split
      case isTrue => exact ih (up proper) there
      case isFalse double =>
        split
        case isTrue => exact ih proper there
        case isFalse single => exact ih (down double single) there

/-- The path that a text leads to is proper if it starts from a proper one. -/
lemma walkText_proper (proper : ∀ s ∈ front, Proper s) :
    ∀ s ∈ walkText .web front cs, Proper s := by
  simp only [walkText, reduceCtorEq, if_false]
  exact walk_proper proper segmentsOf_plain

/-! ## Written paths -/

/-- A written path does not end before it ends. -/
lemma writePath_pathless (proper : ∀ s ∈ path, Proper s) : ∀ c ∈ writePath path, endsPath c = false := by
  intro c mc
  obtain ⟨s, ms, mc⟩ := List.mem_flatMap.1 mc
  rcases List.mem_cons.1 mc with rfl | mc
  · rfl
  · exact (proper s ms).pathless c mc

/-- What a path is written behind is apart from its segments. -/
lemma partsAt_append_writePath (slashless : ∀ c ∈ s, Kind.web.isSlash c = false)
    (proper : ∀ s ∈ path, Proper s) :
    partsAt Kind.web.isSlash (s ++ writePath path) = s :: path := by
  induction path generalizing s with
  | nil =>
    rw [writePath, List.flatMap_nil, List.append_nil]
    exact partsAt_of_unmarked slashless
  | cons first path ih =>
    have here := (proper first List.mem_cons_self).slashless
    have there : ∀ s ∈ path, Proper s := fun s ms => proper s (List.mem_cons_of_mem _ ms)
    have written : writePath (first :: path) = '/' :: (first ++ writePath path) := rfl
    rw [written, partsAt_append slashless rfl, ih here there]

/-- A written path falls apart into its segments, behind the slash in front of them. -/
lemma partsAt_writePath (proper : ∀ s ∈ path, Proper s) :
    partsAt Kind.web.isSlash (writePath path) = [] :: path := by
  have apart := partsAt_append_writePath (s := []) nofun proper
  rwa [List.nil_append] at apart

/-- No part of a written path is read as a dot or as two. -/
lemma decode_part_writePath (proper : ∀ s ∈ path, Proper s) :
    ∀ part ∈ partsAt Kind.web.isSlash (writePath path),
      decode part ≠ [46] ∧ decode part ≠ [46, 46] := by
  rw [partsAt_writePath proper]
  intro part mp
  have part_proper : Proper part := by
    rcases List.mem_cons.1 mp with rfl | mp
    · exact .nil
    · exact proper part mp
  exact ⟨decode_ne_dot part_proper.single, decode_ne_dots part_proper.double⟩

end Url

end EdgeCache
