import Mathlib.Data.List.Forall2
import Mathlib.Tactic.Lemma

/-!
# Woven lists

Two lists that go together element by element, but that each of them also has elements of its own in
between. What is done along the one list and along the other stays related, if elements that go
together keep it so and an element that stands alone changes nothing that matters.
-/

namespace EdgeCache

variable {α β σ τ : Type} {pair : α → β → Prop} {mine : α → Prop} {yours : β → Prop}
variable {l : List α} {l' : List β}

/-- An element of the one list has its counterpart in the other. -/
lemma exists_counterpart {a : α} (h : List.Forall₂ pair l l') (ma : a ∈ l) :
    ∃ b ∈ l', pair a b := by
  induction h with
  | nil => cases ma
  | @cons a₁ b₁ _ _ go _ ih =>
    rcases List.mem_cons.1 ma with rfl | ma
    · exact ⟨b₁, List.mem_cons_self, go⟩
    · obtain ⟨b, mb, go⟩ := ih ma
      exact ⟨b, List.mem_cons_of_mem _ mb, go⟩

/-- Elements that go together come in the same order; the others are in one of the lists only. -/
inductive Woven (pair : α → β → Prop) (mine : α → Prop) (yours : β → Prop) :
    List α → List β → Prop where
  | nil :
    Woven pair mine yours [] []
  | both {a b l l'} :
    pair a b →
    Woven pair mine yours l l' →
    Woven pair mine yours (a :: l) (b :: l')
  | left {a l l'} :
    mine a →
    Woven pair mine yours l l' →
    Woven pair mine yours (a :: l) l'
  | right {b l l'} :
    yours b →
    Woven pair mine yours l l' →
    Woven pair mine yours l (b :: l')

namespace Woven

/-- Elements that stand alone can be put in front. -/
lemma rights {own : List β} (h : ∀ b ∈ own, yours b) (w : Woven pair mine yours l l') :
    Woven pair mine yours l (own ++ l') := by
  induction own with
  | nil => exact w
  | cons b own ih =>
    obtain ⟨hb, h⟩ := List.forall_mem_cons.1 h
    exact .right hb (ih h)

/-- Lists are woven if the elements picked from them go together. -/
lemma of_filter {p : α → Bool} {q : β → Bool} (h : List.Forall₂ pair (l.filter p) (l'.filter q)) :
    Woven pair (fun a => p a = false) (fun b => q b = false) l l' := by
  induction l generalizing l' with
  | nil =>
    rw [List.filter_nil, List.forall₂_nil_left_iff, List.filter_eq_nil_iff] at h
    rw [← List.append_nil l']
    exact .rights (fun b mb => Bool.eq_false_iff.2 (h b mb)) .nil
  | cons a l ih =>
    cases pa : p a with
    | false =>
      rw [List.filter_cons_of_neg (Bool.eq_false_iff.1 pa)] at h
      exact .left pa (ih h)
    | true =>
      rw [List.filter_cons_of_pos pa] at h
      obtain ⟨b, bs, go, rest, picked⟩ := List.forall₂_cons_left_iff.1 h
      obtain ⟨own, l', rfl, alone, _, rfl⟩ := List.filter_eq_cons_iff.1 picked
      exact .rights (fun b mb => Bool.eq_false_iff.2 (alone b mb)) (.both go (ih rest))

/-- Lists with the same picked elements are woven. -/
lemma of_filter_eq {l l' : List α} {p : α → Bool} (h : l.filter p = l'.filter p) :
    Woven (fun a b => a = b ∧ p a = true) (fun a => p a = false) (fun b => p b = false) l l' := by
  refine of_filter ?_
  rw [← h]
  exact List.forall₂_same.2 fun a ma => ⟨rfl, (List.mem_filter.1 ma).2⟩

lemma imp {pair' : α → β → Prop} {mine' : α → Prop} {yours' : β → Prop}
    (w : Woven pair mine yours l l') (both : ∀ a b, pair a b → pair' a b)
    (left : ∀ a ∈ l, mine a → mine' a) (right : ∀ b ∈ l', yours b → yours' b) :
    Woven pair' mine' yours' l l' := by
  induction w with
  | nil => exact .nil
  | both go _ ih =>
    refine .both (both _ _ go) (ih ?_ ?_)
    · exact fun a ma => left a (List.mem_cons_of_mem _ ma)
    · exact fun b mb => right b (List.mem_cons_of_mem _ mb)
  | left alone _ ih =>
    refine .left (left _ List.mem_cons_self alone) (ih ?_ right)
    exact fun a ma => left a (List.mem_cons_of_mem _ ma)
  | right alone _ ih =>
    refine .right (right _ List.mem_cons_self alone) (ih left ?_)
    exact fun b mb => right b (List.mem_cons_of_mem _ mb)

lemma append {m : List α} {m' : List β} (w : Woven pair mine yours l l')
    (w' : Woven pair mine yours m m') : Woven pair mine yours (l ++ m) (l' ++ m') := by
  induction w with
  | nil => exact w'
  | both go _ ih => exact .both go ih
  | left alone _ ih => exact .left alone ih
  | right alone _ ih => exact .right alone ih

/-- What is done along woven lists stays related. -/
lemma foldl {R : σ → τ → Prop} {f : σ → α → σ} {g : τ → β → τ} {s : σ} {t : τ}
    (w : Woven pair mine yours l l')
    (both : ∀ s t a b, pair a b → R s t → R (f s a) (g t b))
    (left : ∀ s t a, mine a → R s t → R (f s a) t)
    (right : ∀ s t b, yours b → R s t → R s (g t b)) (h : R s t) :
    R (l.foldl f s) (l'.foldl g t) := by
  induction w generalizing s t with
  | nil => exact h
  | both go _ ih => exact ih (both s t _ _ go h)
  | left alone _ ih => exact ih (left s t _ alone h)
  | right alone _ ih => exact ih (right s t _ alone h)

end Woven

end EdgeCache
