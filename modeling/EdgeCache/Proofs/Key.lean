import EdgeCache.Key
import Mathlib.Logic.Relation
import Mathlib.Tactic.Lemma

/-!
# Keys and their paths

A key and any number of slashes around it are all the paths that ask for it. So a key stands for a class
of paths: those that come from one another when slashes are put to their ends or taken from them.
-/

namespace EdgeCache

variable {cs ds : List Char} {n : Nat}

lemma dropLeadingSlashes_replicate :
    dropLeadingSlashes (List.replicate n '/' ++ cs) = dropLeadingSlashes cs := by
  induction n with
  | zero => rfl
  | succ n ih =>
    rw [List.replicate_succ, List.cons_append, dropLeadingSlashes, if_pos rfl]
    exact ih

lemma dropLeadingSlashes_of_head (h : cs.head? ≠ some '/') : dropLeadingSlashes cs = cs := by
  cases cs with
  | nil => rfl
  | cons c cs =>
    rw [dropLeadingSlashes, if_neg]
    intro slash
    exact h (congrArg some slash)

lemma trimSlashes_replicate :
    trimSlashes (List.replicate n '/' ++ cs) = trimSlashes cs := by
  rw [trimSlashes, dropLeadingSlashes_replicate, ← trimSlashes]

/-- Of slashes nothing is left. -/
lemma trimSlashes_slashes : trimSlashes (List.replicate n '/') = [] := by
  rw [← List.append_nil (List.replicate n '/'), trimSlashes_replicate]
  rfl

/-- A text is what is left when its outer slashes are dropped, with slashes around it. -/
lemma trimSlashes_around (cs : List Char) :
    ∃ m n, cs = List.replicate m '/' ++ (trimSlashes cs ++ List.replicate n '/') := by
  obtain ⟨m, front⟩ := exists_replicate_append_dropLeadingSlashes cs
  obtain ⟨n, back⟩ := exists_replicate_append_dropLeadingSlashes (dropLeadingSlashes cs).reverse
  refine ⟨m, n, ?_⟩
  have back : dropLeadingSlashes cs = trimSlashes cs ++ List.replicate n '/' := by
    have turned := congrArg List.reverse back
    rwa [List.reverse_reverse, List.reverse_append, List.reverse_replicate, ← trimSlashes] at turned
  rw [← back]
  exact front

/-- Slashes around a text that has none at its ends are all that is dropped. -/
lemma trimSlashes_append_replicate {m : Nat} (front : ds.head? ≠ some '/') (back : ds.getLast? ≠ some '/') :
    trimSlashes (List.replicate m '/' ++ (ds ++ List.replicate n '/')) = ds := by
  rw [trimSlashes_replicate]
  cases ds with
  | nil => exact trimSlashes_slashes
  | cons d ds =>
    have front' : (d :: ds ++ List.replicate n '/').head? ≠ some '/' := front
    have back' : (d :: ds).reverse.head? ≠ some '/' := by
      rw [List.head?_reverse]
      exact back
    rw [trimSlashes, dropLeadingSlashes_of_head front', List.reverse_append, List.reverse_replicate,
      dropLeadingSlashes_replicate, dropLeadingSlashes_of_head back', List.reverse_reverse]

/-- What is left of a text is the only one without outer slashes that makes the text with some around it. -/
lemma eq_trimSlashes_iff :
    ds = trimSlashes cs ↔
      (∃ m n, cs = List.replicate m '/' ++ (ds ++ List.replicate n '/')) ∧
        ds.head? ≠ some '/' ∧ ds.getLast? ≠ some '/' := by
  constructor
  · intro eq
    rw [eq]
    exact ⟨trimSlashes_around cs, head?_trimSlashes cs, getLast?_trimSlashes cs⟩
  · rintro ⟨⟨m, n, rfl⟩, front, back⟩
    exact (trimSlashes_append_replicate front back).symm

/-- Nothing is left of slashes, and of nothing else. -/
lemma trimSlashes_eq_nil_iff : trimSlashes cs = [] ↔ ∀ c ∈ cs, c = '/' := by
  constructor
  · intro nothing c mc
    obtain ⟨m, n, eq⟩ := trimSlashes_around cs
    rw [eq, nothing, List.nil_append, List.replicate_append_replicate] at mc
    exact List.eq_of_mem_replicate mc
  · intro slashes
    rw [List.eq_replicate_of_mem slashes]
    exact trimSlashes_slashes

/-! ## Texts that differ in outer slashes -/

/-- A slash is taken from an end of a text. -/
inductive Strips : List Char → List Char → Prop where
  | front (cs : List Char) : Strips ('/' :: cs) cs
  | back (cs : List Char) : Strips (cs ++ ['/']) cs

/-- Texts that differ in slashes at their ends only: slashes that are taken and put there lead from one to
the other. -/
def SameInside : List Char → List Char → Prop := Relation.EqvGen Strips

lemma Strips.trim_eq (h : Strips cs ds) : trimSlashes cs = trimSlashes ds := by
  cases h with
  | front => rfl
  | back =>
    obtain ⟨m, n, eq⟩ := trimSlashes_around ds
    symm
    apply eq_trimSlashes_iff.2
    refine ⟨⟨m, n + 1, ?_⟩, head?_trimSlashes ds, getLast?_trimSlashes ds⟩
    calc ds ++ ['/'] = (List.replicate m '/' ++ (trimSlashes ds ++ List.replicate n '/')) ++ ['/'] := by
          rw [← eq]
      _ = List.replicate m '/' ++ (trimSlashes ds ++ List.replicate (n + 1) '/') := by
          rw [List.replicate_succ', List.append_assoc, List.append_assoc]

namespace SameInside

lemma front : SameInside (List.replicate n '/' ++ cs) cs := by
  induction n with
  | zero => exact .refl cs
  | succ n ih =>
    apply Relation.EqvGen.trans _ (List.replicate n '/' ++ cs)
    · exact .rel _ _ (.front _)
    · exact ih

lemma back : SameInside (cs ++ List.replicate n '/') cs := by
  induction n with
  | zero =>
    rw [List.replicate_zero, List.append_nil]
    exact .refl cs
  | succ n ih =>
    rw [List.replicate_succ', ← List.append_assoc]
    apply Relation.EqvGen.trans _ (cs ++ List.replicate n '/')
    · exact .rel _ _ (.back _)
    · exact ih

/-- A text differs in outer slashes only from what is left of it. -/
lemma trimmed (cs : List Char) : SameInside cs (trimSlashes cs) := by
  obtain ⟨m, n, eq⟩ := trimSlashes_around cs
  have stripped : SameInside (List.replicate m '/' ++ (trimSlashes cs ++ List.replicate n '/'))
      (trimSlashes cs) := .trans _ _ _ front back
  rwa [← eq] at stripped

end SameInside

/-- What is left of a text tells the texts apart that differ in more than outer slashes. -/
lemma sameInside_iff : SameInside cs ds ↔ trimSlashes cs = trimSlashes ds := by
  constructor
  · intro h
    induction h with
    | rel cs ds strips => exact strips.trim_eq
    | refl cs => rfl
    | symm cs ds _ ih => exact ih.symm
    | trans cs ds es _ _ ih ih' => exact ih.trans ih'
  · intro eq
    have back := SameInside.trimmed ds
    rw [← eq] at back
    exact .trans _ _ _ (SameInside.trimmed cs) (.symm _ _ back)

/-! ## Keys -/

namespace Key

variable {k l : Key} {path : String}

lemma text_injective (h : k.text = l.text) : k = l := by
  have chars := congrArg String.toList h
  rw [text, text, String.toList_ofList, String.toList_ofList] at chars
  exact Key.ext chars

/-- The paths that ask for a key are the key with slashes around it. -/
lemma trimSlashes_eq_iff :
    trimSlashes cs = k.chars ↔
      ∃ m n, cs = List.replicate m '/' ++ (k.chars ++ List.replicate n '/') := by
  rw [eq_comm, eq_trimSlashes_iff]
  exact and_iff_left ⟨k.head?_ne, k.getLast?_ne⟩

lemma ofPath_eq_ok_iff : ofPath path = .ok k ↔ trimSlashes path.toList = k.chars := by
  simp only [ofPath]
  split
  case isTrue empty =>
    rw [empty]
    exact ⟨nofun, fun eq => absurd eq.symm k.ne_nil⟩
  case isFalse =>
    rw [Except.ok.injEq, Key.ext_iff]

/-- A path is refused only if nothing is left of it, and then in these words. -/
lemma ofPath_eq_error_iff {fault : Fault} :
    ofPath path = .error fault ↔
      trimSlashes path.toList = [] ∧
        fault = .malformedKey s!"'{path}' is empty after normalization" := by
  simp only [ofPath]
  split
  case isTrue empty =>
    rw [Except.error.injEq, eq_comm]
    exact (and_iff_right empty).symm
  case isFalse left =>
    exact ⟨nofun, fun refused => absurd refused.1 left⟩

/-- A path of which something is left asks for a key. -/
lemma exists_ofPath_iff : (∃ k, ofPath path = .ok k) ↔ trimSlashes path.toList ≠ [] := by
  constructor
  · rintro ⟨k, found⟩
    rw [ofPath_eq_ok_iff.1 found]
    exact k.ne_nil
  · intro left
    cases found : ofPath path with
    | ok k => exact ⟨k, rfl⟩
    | error fault => exact absurd (ofPath_eq_error_iff.1 found).1 left

/-- A key asks for itself. -/
lemma ofPath_text : ofPath k.text = .ok k := by
  rw [ofPath_eq_ok_iff, text, String.toList_ofList]
  exact trimSlashes_eq_iff.2 ⟨0, 0, (List.append_nil _).symm⟩

/-- A path asks for a key if and only if it has a character that is no slash. The key is then the only
text without slashes at its ends that makes the path with slashes around it. It asks for itself, and the
paths that ask for it are those that differ from the path in slashes at their ends only. A path of nothing
but slashes is refused as malformed, and no other path is refused. -/
theorem only_outer_slashes_are_lost (path : String) :
    ((∃ k, ofPath path = .ok k) ↔ ∃ c ∈ path.toList, c ≠ '/') ∧
    (∀ k, ofPath path = .ok k →
      (∀ cs, cs = k.chars ↔
        (∃ m n, path.toList = List.replicate m '/' ++ (cs ++ List.replicate n '/')) ∧
          cs.head? ≠ some '/' ∧ cs.getLast? ≠ some '/') ∧
      ofPath k.text = .ok k ∧
      ∀ path', ofPath path' = .ok k ↔ SameInside path.toList path'.toList) ∧
    ∀ fault, ofPath path = .error fault ↔
      (∀ c ∈ path.toList, c = '/') ∧
        fault = .malformedKey s!"'{path}' is empty after normalization" := by
  refine ⟨?_, ?_, ?_⟩
  · rw [exists_ofPath_iff, ne_eq, trimSlashes_eq_nil_iff]
    simp only [Classical.not_forall, exists_prop, ne_eq]
  · intro k found
    have left := ofPath_eq_ok_iff.1 found
    refine ⟨?_, ofPath_text, ?_⟩
    · intro cs
      rw [← left]
      exact eq_trimSlashes_iff
    · intro path'
      rw [ofPath_eq_ok_iff, sameInside_iff, left]
      exact eq_comm
  · intro fault
    rw [← trimSlashes_eq_nil_iff]
    exact ofPath_eq_error_iff

/-- Inner slashes, capitals and encodings stay. -/
example : trimSlashes "//a//B%2f/".toList = "a//B%2f".toList := by decide

end Key

end EdgeCache
