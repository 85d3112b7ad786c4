import EdgeCache.Http.Server
import EdgeCache.Origin.Reaction
import Mathlib.Tactic.Lemma

/-!
# What a reaction is to a client

The page that a client is sent for what the origin did. A content type is read from the bytes of a
header and written into a header again; every text that is read may be written, so none is lost on
the way.
-/

namespace EdgeCache

namespace Http

/-- The first header of a name has this value. -/
def Leads (headers : List Header) (name : String) (value : ByteArray) : Prop :=
  ∃ before h after, headers = before ++ h :: after ∧ sameName h.name name = true ∧
    h.value = value ∧ ∀ x ∈ before, sameName x.name name = false

/-! ## Bytes as text -/

/-- Reading bytes one by one puts them behind those that have been read. -/
lemma toList_loop (bytes : ByteArray) (i : Nat) (read : List UInt8) :
    ByteArray.toList.loop bytes i read = read.reverse ++ bytes.data.toList.drop i := by
  fun_induction ByteArray.toList.loop bytes i read with
  | case1 i read lt ih =>
    have lt' : i < bytes.data.toList.length := by simpa using lt
    rw [ih, List.drop_eq_getElem_cons lt']
    simp [ByteArray.get!, lt]
  | case2 i read le =>
    rw [List.drop_eq_nil_of_le (by simpa using Nat.le_of_not_lt le), List.append_nil]

/-- Bytes that are read and put together again are the same. -/
lemma toByteArray_toList (bytes : ByteArray) : bytes.toList.toByteArray = bytes := by
  apply ByteArray.ext
  apply Array.toList_inj.1
  rw [List.toList_data_toByteArray, ByteArray.toList, toList_loop]
  rfl

variable {bytes : List UInt8} {headers : List Header} {name : String} {value : ByteArray}

lemma toNat_ofNat {n : Nat} (small : n < 128) : (Char.ofNat n).toNat = n := by
  rw [Char.ofNat, dif_pos (.inl (by omega))]
  rfl

/-- A byte of ASCII is a character of its own. -/
lemma utf8EncodeChar_ofNat {b : UInt8} (small : b.toNat < 128) :
    String.utf8EncodeChar (Char.ofNat b.toNat) = [b] := by
  have code : (Char.ofNat b.toNat).val.toNat = b.toNat := toNat_ofNat small
  have short : (Char.ofNat b.toNat).utf8Size = 1 := by
    rw [Char.utf8Size_eq_one_iff, UInt32.le_iff_toNat_le, code]
    exact Nat.le_of_lt_succ small
  rw [String.utf8EncodeChar_eq_singleton short]
  congr 1
  apply UInt8.toNat_inj.1
  rw [UInt32.toNat_toUInt8, code]
  omega

/-- Bytes below 128 are the text that they are read as. -/
lemma plainText_toUTF8 (small : ∀ b ∈ bytes, b.toNat < 128) :
    (plainText bytes).toUTF8 = bytes.toByteArray := by
  have encoded : (plainChars bytes).flatMap String.utf8EncodeChar = bytes := by
    induction bytes with
    | nil => rfl
    | cons b bytes ih =>
      have first := utf8EncodeChar_ofNat (small b List.mem_cons_self)
      have rest := ih fun b mb => small b (List.mem_cons_of_mem _ mb)
      rw [plainChars, List.map_cons, List.flatMap_cons, first]
      exact congrArg (b :: ·) rest
  exact congrArg List.toByteArray encoded

/-- The value of a header is that of the first header of its name. -/
lemma headerValue?_eq_some_iff : headerValue? headers name = some value ↔ Leads headers name value := by
  rw [headerValue?, Option.map_eq_some_iff]
  constructor
  · rintro ⟨h, found, rfl⟩
    obtain ⟨named, before, after, rfl, others⟩ := List.find?_eq_some_iff_append.1 found
    refine ⟨before, h, after, rfl, named, rfl, fun x mx => ?_⟩
    simpa using others x mx
  · rintro ⟨before, h, after, rfl, named, rfl, others⟩
    refine ⟨h, List.find?_eq_some_iff_append.2 ⟨named, before, after, rfl, fun x mx => ?_⟩, rfl⟩
    rw [others x mx]
    rfl

end Http

namespace Reaction

open Http

/-- Whether bytes are visible characters, spaces and tabs. -/
def Visible (value : ByteArray) : Prop :=
  ∀ b ∈ value.toList, b.toNat = 9 ∨ 32 ≤ b.toNat ∧ b.toNat ≤ 126

/-- The content type that a client is told of an answer with some headers. -/
inductive Typed (headers : List Header) : String → Prop where
  | own {value : ByteArray} {type : String} :
    Leads headers "content-type" value →
    Visible value →
    type.toUTF8 = value →
    Typed headers type
  | unreadable {value : ByteArray} :
    Leads headers "content-type" value →
    ¬ Visible value →
    Typed headers "application/octet-stream"
  | missing :
    (∀ value, ¬ Leads headers "content-type" value) →
    Typed headers "application/octet-stream"

/-- The status that stands for a reaction that is no resource. -/
inductive Fails : Reaction → UInt16 → Prop where
  | status {status : UInt16} {headers : List Header} {body : ByteArray} {ending : BodyEnd} :
    status ≠ 200 →
    Fails (.answer status headers body ending) status
  | cut {headers : List Header} {body : ByteArray} :
    Fails (.answer 200 headers body .cut) 502
  | stalled {headers : List Header} {body : ByteArray} :
    Fails (.answer 200 headers body .stalled) 504
  | broken :
    Fails .broken 502
  | silent :
    Fails .silent 504

/-- What a reaction leaves in the store, and what a client is sent for it. -/
inductive Delivers : Reaction → Entry → Page → Prop where
  | resource {headers : List Header} {body : ByteArray} {type : String} :
    Typed headers type →
    Delivers (.answer 200 headers body .complete) (.success type body) ⟨200, some type, body⟩
  | failure {r : Reaction} {status : UInt16} :
    r.Fails status →
    status ≠ 200 →
    Delivers r (.failure status) ⟨200, none, ByteArray.empty⟩

variable {value : ByteArray} {headers : List Header} {r : Reaction}

/-- A byte may stand in a header if it is a tab, a blank or a visible character. -/
lemma isVisible_iff {b : UInt8} :
    isVisible b = true ↔ b.toNat = 9 ∨ 32 ≤ b.toNat ∧ b.toNat ≤ 126 := by
  rw [isVisible, Bool.or_eq_true, Bool.and_eq_true, decide_eq_true_iff, decide_eq_true_iff,
    decide_eq_true_iff, UInt8.le_iff_toNat_le, UInt8.le_iff_toNat_le, ← UInt8.toNat_inj, or_comm]
  rfl

/-- A value is visible if each of its bytes is. -/
lemma visible_iff : value.toList.all isVisible = true ↔ Visible value := by
  simp only [List.all_eq_true, isVisible_iff, Visible]

/-- A visible value that is read as a text is written again as it was. -/
lemma Visible.text (v : Visible value) : (plainText value.toList).toUTF8 = value := by
  rw [plainText_toUTF8, toByteArray_toList]
  intro b mb
  rcases v b mb with tab | ⟨_, le⟩ <;> omega

/-- A text that is read may stand in a header. -/
lemma Visible.isHeaderValue (v : Visible value) :
    isHeaderValue (plainText value.toList) = true := by
  rw [Http.isHeaderValue, plainText, String.toList_ofList, List.all_eq_true]
  intro c mc
  obtain ⟨b, mb, rfl⟩ := List.mem_map.1 mc
  rcases v b mb with tab | ⟨ge, le⟩
  · rw [tab]
    decide
  · have code := toNat_ofNat (n := b.toNat) (by omega)
    have visible : ' ' ≤ Char.ofNat b.toNat := by
      rw [Char.le_def, UInt32.le_iff_toNat_le]
      exact Nat.le_trans ge (Nat.le_of_eq code.symm)
    have kept : Char.ofNat b.toNat ≠ '\x7f' := by
      intro eq
      rw [eq] at code
      change 127 = b.toNat at code
      omega
    simp [visible, kept]

/-- The content type of a response is the one that it is typed with. -/
lemma contentType_typed : Typed headers (contentType headers) := by
  cases first : headerValue? headers "content-type" with
  | none =>
    have default : contentType headers = "application/octet-stream" := by
      rw [contentType, first]
      rfl
    rw [default]
    refine .missing fun value leads => ?_
    rw [headerValue?_eq_some_iff.2 leads] at first
    cases first
  | some value =>
    have leads := headerValue?_eq_some_iff.1 first
    by_cases v : Visible value
    · have read : contentType headers = plainText value.toList := by
        rw [contentType, first, Option.bind_some, visibleText?, if_pos (visible_iff.2 v)]
        rfl
      rw [read]
      exact .own leads v v.text
    · have default : contentType headers = "application/octet-stream" := by
        rw [contentType, first, Option.bind_some, visibleText?, if_neg fun all => v (visible_iff.1 all)]
        rfl
      rw [default]
      exact .unreadable leads v

/-- Every content type may stand in a header. -/
lemma Typed.isHeaderValue {type : String} (t : Typed headers type) : isHeaderValue type = true := by
  cases t with
  | own _ v eq =>
    rw [String.toByteArray_inj.1 (eq.trans v.text.symm)]
    exact v.isHeaderValue
  | unreadable => decide
  | missing => decide

/-- What a reaction leaves is what a client is sent. -/
theorem entry_delivers (r : Reaction) : r.Delivers r.entry (.ofCall false (.ok r.entry)) := by
  have failed {r : Reaction} {status : UInt16} (eq : r.entry = .failure status)
      (fails : r.Fails status) (ne : status ≠ 200) :
      r.Delivers r.entry (.ofCall false (.ok r.entry)) := by
    rw [eq]
    exact .failure fails ne
  cases r with
  | answer status headers body ending =>
    by_cases good : status = 200
    · subst good
      cases ending with
      | complete =>
        have typed : Typed headers (contentType headers) := contentType_typed
        have page : Page.ofCall false (.ok (.success (contentType headers) body)) =
            ⟨200, some (contentType headers), body⟩ := by
          simp only [Page.ofCall, Page.cut, Page.ofResult, Page.ofRendered, Entry.render,
            Option.filter_some, typed.isHeaderValue, Bool.false_eq_true, if_true, if_false]
        change Delivers _ (.success _ body) (.ofCall false (.ok (.success _ body)))
        rw [page]
        exact .resource typed
      | cut => exact failed rfl .cut (by decide)
      | stalled => exact failed rfl .stalled (by decide)
    · exact failed (if_neg good) (.status good) good
  | broken => exact failed rfl .broken (by decide)
  | silent => exact failed rfl .silent (by decide)

end Reaction

end EdgeCache
