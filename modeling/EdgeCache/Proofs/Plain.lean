import EdgeCache.Key
import EdgeCache.Proofs.Url.Path
import Mathlib.Tactic.Lemma

/-!
# Plain keys

Keys as most resources have them: names of letters, digits and a few marks, with slashes between them.
Such characters stand for themselves in a target and in a URL.
-/

namespace EdgeCache

/-- A letter or a digit, a hyphen, an underscore or a dot. -/
def isPlain (c : Char) : Bool := c.isAlphanum || c = '-' || c = '_' || c = '.'

/-- A key whose segments all have characters, plain ones only. -/
def Key.Plain (k : Key) : Prop :=
  ∀ part ∈ partsAt (· = '/') k.chars, part ≠ [] ∧ ∀ c ∈ part, isPlain c = true

instance (k : Key) : Decidable k.Plain :=
  decidable_of_iff
    (((partsAt (· = '/') k.chars).all fun part => !part.isEmpty && part.all isPlain) = true)
    (by simp [Key.Plain])

variable {c : Char} {k : Key}

/-- A letter or a digit by its code point. -/
lemma isAlphanum_cases (h : c.isAlphanum = true) :
    (48 ≤ c.toNat ∧ c.toNat ≤ 57) ∨ (65 ≤ c.toNat ∧ c.toNat ≤ 90) ∨
      (97 ≤ c.toNat ∧ c.toNat ≤ 122) := by
  have ranges : ((decide (65 ≤ c.val ∧ c.val ≤ 90) ||
      (decide (97 ≤ c.val) && decide (c.val ≤ 122))) ||
      (decide (48 ≤ c.val) && decide (c.val ≤ 57))) = true := h
  simp only [Bool.or_eq_true, Bool.and_eq_true, decide_eq_true_eq, UInt32.le_iff_toNat_le,
    Char.toNat_val, UInt32.reduceToNat] at ranges
  omega

/-- A plain character by its code point. -/
lemma isPlain_cases (h : isPlain c = true) :
    (48 ≤ c.toNat ∧ c.toNat ≤ 57) ∨ (65 ≤ c.toNat ∧ c.toNat ≤ 90) ∨
      (97 ≤ c.toNat ∧ c.toNat ≤ 122) ∨ c.toNat = 45 ∨ c.toNat = 95 ∨ c.toNat = 46 := by
  simp only [isPlain, Bool.or_eq_true, decide_eq_true_eq, ← Char.toNat_inj, Char.reduceToNat] at h
  rcases h with ((letter | mark) | mark) | mark
  · have := isAlphanum_cases letter
    omega
  · omega
  · omega
  · omega

/-- The characters of a plain key are plain, slashes apart. -/
lemma Key.Plain.chars (plain : k.Plain) (mc : c ∈ k.chars) : c = '/' ∨ isPlain c = true := by
  have cut := @mem_partsAt (· = '/') k.chars c mc
  rcases cut with slash | ⟨part, mp, mc⟩
  · exact .inl (of_decide_eq_true slash)
  · exact .inr ((plain part mp).2 c mc)

end EdgeCache
