import Gateway.Text.Numeral
import Gateway.Text.Uuid
import Mathlib.Tactic.Tauto

/-!
# UUIDs as texts and as numbers

`isUuid` looks at one character after the other; `isUuid_iff` says what it takes for a UUID, group by group.

`uuidDigits` loses nothing: the digits read back as the number (`readInBase_uuidDigits`), so two numbers
never share their digits. References and connections are told apart by such digits alone.
-/

namespace Gateway.Text

/-! ## §1 — hyphenated texts -/

/-- The hexadecimal digits, in either case. -/
def hexDigits : List Char := "0123456789abcdefABCDEF".toList

theorem isHexDigit_iff {c : Char} : isHexDigit c = true ↔ c ∈ hexDigits := by
  constructor
  · intro digit
    have value : ∀ n < 128, isHexDigit (Char.ofNat n) = true → Char.ofNat n ∈ hexDigits := by decide
    have small : c.toNat < 128 := by
      simp only [isHexDigit, Char.isDigit, Bool.or_eq_true, Bool.and_eq_true, decide_eq_true_eq,
        Char.le_def, UInt32.le_iff_toNat_le] at digit
      show c.val.toNat < 128
      rcases digit with (⟨_, h⟩ | ⟨_, h⟩) | ⟨_, h⟩
      · exact Nat.lt_of_le_of_lt h (by decide)
      · exact Nat.lt_of_le_of_lt h (by decide)
      · exact Nat.lt_of_le_of_lt h (by decide)
    have known := value c.toNat small
    rw [Char.ofNat_toNat] at known
    exact known digit
  · have each : hexDigits.all isHexDigit = true := by decide
    exact List.all_eq_true.mp each c

/-- **A hyphenated UUID**: groups of 8, 4, 4, 4 and 12 hexadecimal digits, with a hyphen between any two. -/
def Hyphenated (s : List Char) : Prop :=
  ∃ groups : List (List Char), groups.map List.length = [8, 4, 4, 4, 12] ∧
    (∀ g ∈ groups, ∀ c ∈ g, c ∈ hexDigits) ∧ s = ['-'].intercalate groups

/-- What `isUuid` asks of the character at a place. -/
def fitsPlace (place : Char × Nat) : Bool :=
  if uuidHyphens.contains place.2 then place.1 == '-' else isHexDigit place.1

/-- Away from the hyphens every character is to be a digit. -/
theorem all_fitsPlace_zipIdx {g : List Char} {n : Nat}
    (plain : ∀ i ∈ uuidHyphens, i < n ∨ n + g.length ≤ i) :
    (g.zipIdx n).all fitsPlace = true ↔ ∀ c ∈ g, c ∈ hexDigits := by
  induction g generalizing n with
  | nil => simp
  | cons c g ih =>
    have here : uuidHyphens.contains n = false := by
      rw [Bool.eq_false_iff, ne_eq, List.contains_iff_mem]
      intro mem
      have := plain n mem
      rw [List.length_cons] at this
      omega
    have later := ih (n := n + 1) fun i hi => by
      have := plain i hi
      rw [List.length_cons] at this
      omega
    rw [List.zipIdx_cons, List.all_cons, Bool.and_eq_true, later, List.forall_mem_cons, fitsPlace,
      if_neg (by simpa using here), isHexDigit_iff]

/-- A text is cut behind so many characters. -/
theorem exists_cut {s : List Char} {n m : Nat} (long : s.length = n + (m + 1)) :
    ∃ front c rest, s = front ++ c :: rest ∧ front.length = n ∧ rest.length = m := by
  have inside : n < s.length := by omega
  refine ⟨s.take n, s[n], s.drop (n + 1), ?_, ?_, ?_⟩
  · rw [← List.drop_eq_getElem_cons inside, List.take_append_drop]
  · rw [List.length_take]
    omega
  · rw [List.length_drop]
    omega

theorem intercalate_groups (a b c d e : List Char) : ['-'].intercalate [a, b, c, d, e] =
    a ++ '-' :: (b ++ '-' :: (c ++ '-' :: (d ++ '-' :: e))) := by
  simp [List.intercalate, List.intersperse]

/-- Groups of the right lengths are a UUID when they hold digits and hyphens stand between them. -/
theorem isUuid_groups {a b c d e : List Char} {w x y z : Char} (ha : a.length = 8) (hb : b.length = 4)
    (hc : c.length = 4) (hd : d.length = 4) (he : e.length = 12) :
    isUuid (a ++ w :: (b ++ x :: (c ++ y :: (d ++ z :: e)))) = true ↔
      (∀ g ∈ [a, b, c, d, e], ∀ c ∈ g, c ∈ hexDigits) ∧ w = '-' ∧ x = '-' ∧ y = '-' ∧ z = '-' := by
  have first : (a.zipIdx 0).all fitsPlace = true ↔ _ :=
    all_fitsPlace_zipIdx (by rw [ha]; decide)
  have second : (b.zipIdx 9).all fitsPlace = true ↔ _ := all_fitsPlace_zipIdx (by rw [hb]; decide)
  have third : (c.zipIdx 14).all fitsPlace = true ↔ _ := all_fitsPlace_zipIdx (by rw [hc]; decide)
  have fourth : (d.zipIdx 19).all fitsPlace = true ↔ _ := all_fitsPlace_zipIdx (by rw [hd]; decide)
  have fifth : (e.zipIdx 24).all fitsPlace = true ↔ _ := all_fitsPlace_zipIdx (by rw [he]; decide)
  have hyphen (place : Nat) (mem : uuidHyphens.contains place = true) (c : Char) :
      fitsPlace (c, place) = true ↔ c = '-' := by
    rw [fitsPlace, if_pos mem, beq_iff_eq]
  have long : (a ++ w :: (b ++ x :: (c ++ y :: (d ++ z :: e)))).length = 36 := by
    simp only [List.length_append, List.length_cons, ha, hb, hc, hd, he]
  have whole : isUuid (a ++ w :: (b ++ x :: (c ++ y :: (d ++ z :: e)))) =
      ((a ++ w :: (b ++ x :: (c ++ y :: (d ++ z :: e)))).zipIdx).all fitsPlace := by
    rw [isUuid, long]
    rfl
  rw [whole]
  simp only [List.zipIdx_append, List.zipIdx_cons, List.all_append, List.all_cons, Bool.and_eq_true,
    ha, hb, hc, hd, Nat.zero_add, Nat.reduceAdd, first, second, third, fourth, fifth,
    hyphen 8 rfl, hyphen 13 rfl, hyphen 18 rfl, hyphen 23 rfl, List.forall_mem_cons]
  tauto

/-- **A text is taken for a UUID** when it is a hyphenated one. -/
theorem isUuid_iff {s : List Char} : isUuid s = true ↔ Hyphenated s := by
  constructor
  · intro uuid
    have long : s.length = 36 := by
      rw [isUuid, Bool.and_eq_true, beq_iff_eq] at uuid
      exact uuid.1
    obtain ⟨a, w, s, rfl, ha, long⟩ := exists_cut (n := 8) (m := 27) long
    obtain ⟨b, x, s, rfl, hb, long⟩ := exists_cut (n := 4) (m := 22) long
    obtain ⟨c, y, s, rfl, hc, long⟩ := exists_cut (n := 4) (m := 17) long
    obtain ⟨d, z, e, rfl, hd, he⟩ := exists_cut (n := 4) (m := 12) long
    obtain ⟨digits, rfl, rfl, rfl, rfl⟩ := (isUuid_groups ha hb hc hd he).1 uuid
    refine ⟨[a, b, c, d, e], by simp only [List.map_cons, List.map_nil, ha, hb, hc, hd, he], digits, ?_⟩
    exact (intercalate_groups a b c d e).symm
  · rintro ⟨groups, lengths, digits, rfl⟩
    obtain ⟨a, groups, rfl, ha, lengths⟩ := List.map_eq_cons_iff.1 lengths
    obtain ⟨b, groups, rfl, hb, lengths⟩ := List.map_eq_cons_iff.1 lengths
    obtain ⟨c, groups, rfl, hc, lengths⟩ := List.map_eq_cons_iff.1 lengths
    obtain ⟨d, groups, rfl, hd, lengths⟩ := List.map_eq_cons_iff.1 lengths
    obtain ⟨e, groups, rfl, he, lengths⟩ := List.map_eq_cons_iff.1 lengths
    obtain rfl := List.map_eq_nil_iff.1 lengths
    rw [intercalate_groups]
    exact (isUuid_groups ha hb hc hd he).2 ⟨digits, rfl, rfl, rfl, rfl⟩

/-! ## §2 — numbers -/

/-- The value of the digit for a number below sixteen. -/
theorem hexValue?_digitChar {d : Nat} (h : d < 16) : hexValue? d.digitChar = some d := by
  revert d
  decide

/-- One digit more in base sixteen. -/
def hexStep (n : Nat) (c : Char) : Option Nat :=
  (hexValue? c).bind fun d => if d < 16 then some (n * 16 + d) else none

theorem hexStep_digitChar (n : Nat) {d : Nat} (h : d < 16) :
    hexStep n d.digitChar = some (n * 16 + d) := by
  simp [hexStep, hexValue?_digitChar h, h]

theorem foldlM_hexStep_toDigits (n : Nat) : (Nat.toDigits 16 n).foldlM hexStep 0 = some n := by
  induction n using Nat.strongRecOn with
  | ind n ih =>
    rw [Nat.toDigits_eq_if (by decide)]
    split
    next small => simp [hexStep_digitChar 0 small]
    next large =>
      have shorter : n / 16 < n := by omega
      have digit : n % 16 < 16 := by omega
      have whole : n / 16 * 16 + n % 16 = n := by omega
      simp [List.foldlM_append, ih _ shorter, hexStep_digitChar _ digit, whole]

/-- Zeros in front of a number do not count. -/
theorem foldlM_hexStep_replicate (k : Nat) (s : List Char) :
    (List.replicate k '0' ++ s).foldlM hexStep 0 = s.foldlM hexStep 0 := by
  induction k with
  | zero => rfl
  | succ k ih =>
    have zero : hexStep 0 '0' = some 0 := by decide
    rw [List.replicate_succ, List.cons_append, List.foldlM_cons, zero]
    exact ih

/-- **The digits of a UUID read back as its number.** -/
theorem readInBase_uuidDigits (n : Nat) : readInBase 16 (uuidDigits n) = some n := by
  have filled : (uuidDigits n).isEmpty = false := by
    simp [uuidDigits, Nat.toDigits_ne_nil]
  rw [readInBase, filled]
  exact (foldlM_hexStep_replicate _ _).trans (foldlM_hexStep_toDigits n)

theorem uuidDigits_injective {m n : Nat} (h : uuidDigits m = uuidDigits n) : m = n := by
  have same := congrArg (readInBase 16) h
  rwa [readInBase_uuidDigits, readInBase_uuidDigits, Option.some.injEq] at same

end Gateway.Text
