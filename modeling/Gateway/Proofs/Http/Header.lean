import Gateway.Auth.Verifier
import Gateway.Http.Header

/-!
# What the header fields of a request say

The first field of a name has a value when it can be read as text (`FieldValue`); a field of that name
behind it says nothing. The value of an `Authorization` field is `Bearer` and a token, or it says nothing
either (`IsBearer`). Both are told without any search; `text?_eq_some_iff` and `bearerToken_eq_some_iff`
say that they are what is found.
-/

namespace Gateway.Http

open Gateway.Text (cut_eq_some_iff lower trim)

/-- The first of the items of a kind. -/
def First {α : Type} (kind : α → Prop) (l : List α) (a : α) : Prop :=
  ∃ before after, l = before ++ a :: after ∧ kind a ∧ ∀ b ∈ before, ¬ kind b

/-- The last of the items of a kind. -/
def Last {α : Type} (kind : α → Prop) (l : List α) (a : α) : Prop :=
  ∃ before after, l = before ++ a :: after ∧ kind a ∧ ∀ b ∈ after, ¬ kind b

theorem Last.cons {α : Type} {kind : α → Prop} {l : List α} {a : α} (h : Last kind l a) (b : α) :
    Last kind (b :: l) a := by
  obtain ⟨before, after, rfl, rest⟩ := h
  exact ⟨b :: before, after, rfl, rest⟩

theorem last_concat_iff {α : Type} {kind : α → Prop} {l : List α} {a b : α} :
    Last kind (l ++ [b]) a ↔ kind b ∧ a = b ∨ ¬ kind b ∧ Last kind l a := by
  constructor
  · rintro ⟨before, after, split, here, others⟩
    rcases List.eq_nil_or_concat after with rfl | ⟨after, c, rfl⟩
    · obtain ⟨-, same⟩ := List.append_inj' split rfl
      obtain rfl := (List.cons.inj same).1
      exact .inl ⟨here, rfl⟩
    · rw [List.concat_eq_append] at split others
      rw [← List.cons_append, ← List.append_assoc] at split
      obtain ⟨rfl, same⟩ := List.append_inj' split rfl
      obtain rfl := (List.cons.inj same).1
      exact .inr ⟨others b (by simp), before, after, rfl, here, fun x mem => others x (by simp [mem])⟩
  · rintro (⟨here, rfl⟩ | ⟨other, before, after, rfl, here, others⟩)
    · exact ⟨l, [], rfl, here, by simp⟩
    · refine ⟨before, after ++ [b], by simp, here, fun x mem => ?_⟩
      rcases List.mem_append.1 mem with mem | mem
      · exact others x mem
      · rwa [List.mem_singleton.1 mem]

/-- A value that can be read as text: it holds visible characters of ASCII, blanks and tabulators. -/
def Readable (value : String) : Prop :=
  ∀ c ∈ value.toList, c = '\t' ∨ 0x20 ≤ c.toNat ∧ c.toNat ≤ 0x7E

instance (value : String) : Decidable (Readable value) :=
  inferInstanceAs (Decidable (∀ c ∈ value.toList, c = '\t' ∨ 0x20 ≤ c.toNat ∧ c.toNat ≤ 0x7E))

/-- The first field of this name has this value, and it can be read as text. -/
def FieldValue (hs : Headers) (name value : String) : Prop :=
  First (·.name = name) hs ⟨name, value⟩ ∧ Readable value

/-- The values of the fields of this name that can be read as text, in order. -/
def fieldTexts (name : String) : Headers → List String
  | [] => []
  | h :: rest =>
    if h.name = name ∧ Readable h.value then h.value :: fieldTexts name rest else fieldTexts name rest

/-- The value is `Bearer`, in any case, and this token behind a blank; a token is not empty. -/
def IsBearer (value token : String) : Prop :=
  token ≠ "" ∧ ∃ scheme rest, trim value.toList = scheme ++ ' ' :: rest ∧ ' ' ∉ scheme ∧
    lower scheme = "bearer".toList ∧ token.toList = trim rest

variable {hs : Headers} {name value token : String}

theorem all_isReadable_iff : value.toList.all isReadable = true ↔ Readable value := by
  rw [List.all_eq_true, Readable]
  refine forall₂_congr fun c _ => ?_
  rw [isReadable, Bool.or_eq_true, Bool.and_eq_true, beq_iff_eq, decide_eq_true_eq, decide_eq_true_eq]
  exact or_congr_right (and_congr_right fun _ => Nat.lt_succ_iff)

theorem texts_eq (hs : Headers) (name : String) : hs.texts name = fieldTexts name hs := by
  induction hs with
  | nil => rfl
  | cons h rest ih =>
    simp only [fieldTexts, ← ih, Headers.texts, ← all_isReadable_iff]
    by_cases named : h.name = name
    · cases readable : h.value.toList.all isReadable <;> simp [named, readable]
    · simp [named]

theorem text?_eq_some_iff : hs.text? name = some value ↔ FieldValue hs name value := by
  rw [Headers.text?, Option.filter_eq_some_iff, Option.map_eq_some_iff, FieldValue, all_isReadable_iff]
  refine and_congr_left fun _ => ?_
  constructor
  · rintro ⟨h, found, rfl⟩
    obtain ⟨named, before, after, split, others⟩ := List.find?_eq_some_iff_append.1 found
    obtain rfl := eq_of_beq named
    exact ⟨before, after, split, rfl, fun b mem => by simpa using others b mem⟩
  · rintro ⟨before, after, split, -, others⟩
    refine ⟨⟨name, value⟩, List.find?_eq_some_iff_append.2 ⟨beq_self_eq_true name, before, after, split,
      fun b mem => ?_⟩, rfl⟩
    simpa using others b mem

theorem bearerToken_eq_some_iff : Auth.bearerToken value = some token ↔ IsBearer value token := by
  rw [Auth.bearerToken]
  constructor
  · intro h
    split at h
    next => cases h
    next scheme rest found =>
      obtain ⟨split, plain⟩ := cut_eq_some_iff.1 found
      dsimp only at h
      split at h
      next fits =>
        rw [Bool.and_eq_true, decide_eq_true_eq, Bool.not_eq_true', List.isEmpty_eq_false_iff] at fits
        obtain rfl := Option.some.inj h
        refine ⟨fun none => fits.2 (String.ofList_injective none), scheme, rest, split, plain, fits.1, ?_⟩
        exact String.toList_ofList
      next => cases h
  · rintro ⟨some, scheme, rest, split, plain, named, written⟩
    rw [cut_eq_some_iff.2 ⟨split, plain⟩]
    dsimp only
    have filled : token.toList.isEmpty = false := by
      rw [List.isEmpty_eq_false_iff]
      exact fun none => some (String.toList_injective none)
    rw [← written, filled, named]
    exact congrArg Option.some String.ofList_toList

end Gateway.Http
