import Gateway.Text.Numeral

/-!
# Numerals

A numeral is digits, perhaps behind a plus sign, and stands for the number that they write.
`readNumeral_eq_ok_iff` says that it is read as this number just when that is within the limit.
-/

namespace Gateway.Text

/-- The number that digits write grows with them. -/
theorem le_ofDigitChars (digits : List Char) (value : Nat) :
    value ≤ Nat.ofDigitChars 10 digits value := by
  induction digits generalizing value with
  | nil => exact Nat.le_refl value
  | cons c rest ih =>
    rw [Nat.ofDigitChars_cons]
    exact Nat.le_trans (by omega) (ih _)

/-- **Digits are read as the number that they write**, as long as it is within the limit. -/
theorem readDigits_eq_ok_iff {limit value n : Nat} {digits : List Char} (start : value ≤ limit) :
    readDigits limit value digits = .ok n ↔
      (∀ c ∈ digits, c.isDigit = true) ∧ Nat.ofDigitChars 10 digits value = n ∧ n ≤ limit := by
  induction digits generalizing value with
  | nil =>
    simp only [readDigits, Except.ok.injEq, List.not_mem_nil, false_implies, implies_true, true_and,
      Nat.ofDigitChars_nil]
    exact ⟨fun same => ⟨same, same ▸ start⟩, And.left⟩
  | cons c rest ih =>
    rw [readDigits, digit?, Nat.ofDigitChars_cons, Nat.mul_comm 10 value, List.forall_mem_cons]
    by_cases digit : c.isDigit = true
    · simp only [digit, if_true, true_and]
      split
      next beyond =>
        have grows := le_ofDigitChars rest (value * 10 + (c.toNat - '0'.toNat))
        refine iff_of_false (by simp) ?_
        rintro ⟨-, rfl, inside⟩
        omega
      next inside => exact ih (Nat.not_lt.1 inside)
    · simp [digit]

/-- **A text is read as a numeral** just when it is one and its number is within the limit. -/
theorem readNumeral_eq_ok_iff {limit n : Nat} {text : List Char} : readNumeral limit text = .ok n ↔
    ∃ digits, (text = digits ∨ text = '+' :: digits) ∧ digits ≠ [] ∧
      (∀ c ∈ digits, c.isDigit = true) ∧ Nat.ofDigitChars 10 digits 0 = n ∧ n ≤ limit := by
  have sign : ¬ ('+').isDigit = true := by decide
  unfold readNumeral
  split
  next => simp
  next => simp [sign]
  next rest filled =>
    rw [readDigits_eq_ok_iff (Nat.zero_le limit)]
    constructor
    · exact fun number => ⟨rest, .inr rfl, fun empty => filled (by rw [empty]), number⟩
    · rintro ⟨digits, rfl | same, -, all, number⟩
      · exact absurd (all '+' List.mem_cons_self) sign
      · exact (List.cons.inj same).2 ▸ ⟨all, number⟩
  next filled _ unsigned =>
    rw [readDigits_eq_ok_iff (Nat.zero_le limit)]
    constructor
    · exact fun number => ⟨_, .inl rfl, filled, number⟩
    · rintro ⟨digits, rfl | rfl, -, number⟩
      · exact number
      · exact absurd rfl (unsigned digits)

end Gateway.Text
