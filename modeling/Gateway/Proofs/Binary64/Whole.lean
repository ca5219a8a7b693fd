import Gateway.Binary64.Reader
import Gateway.Json.Printer
import Gateway.Sql.Identifier
import Mathlib.Data.List.TakeWhile
import Mathlib.Order.Monotone.Basic
import Mathlib.Tactic.Ring

/-!
# Whole numbers among the binary ones

A binary number has 53 bits, so of a longer whole number only the nearest multiple of a power of two is
kept (`kept`). Positions are ordered as the values that they stand for (`value_strictMono`), and the value
of the position of a whole number is what is kept of it (`value_nearest`). So two whole numbers of 64 bits
compare as what is kept of them (`order?_ofInt`): no order is turned round, but numbers beyond `2 ^ 53` may
become equal.
-/

namespace Gateway.Binary64

/-! ## §1 — positions and their values -/

/-- The value of a position, in units of `2 ^ -1074`. -/
def value (magnitude : Nat) : Nat :=
  (ratio magnitude).1

theorem value_eq (magnitude : Nat) : value magnitude =
    if magnitude / fractionSteps = 0 then magnitude % fractionSteps
    else (fractionSteps + magnitude % fractionSteps) * 2 ^ (magnitude / fractionSteps - 1) := by
  unfold value ratio significand
  simp only
  split
  · exact Nat.mul_one _
  · rfl

theorem value_zero : value 0 = 0 := by
  rw [value_eq]
  rfl

/-- A significand with a power of two is the value of this position; also where it is rounded up to the
next power of two. -/
theorem value_position {m : Nat} (least : fractionSteps ≤ m) (most : m ≤ 2 * fractionSteps) (e : Nat) :
    value (e * fractionSteps + m) = m * 2 ^ e := by
  have positive : 0 < fractionSteps := by decide
  rw [value_eq]
  rcases Nat.lt_or_eq_of_le most with below | rfl
  · have shape : e * fractionSteps + m = (m - fractionSteps) + (e + 1) * fractionSteps := by
      rw [Nat.succ_mul]
      omega
    have quotient : (e * fractionSteps + m) / fractionSteps = e + 1 := by
      rw [shape, Nat.add_mul_div_right _ _ positive, Nat.div_eq_of_lt (by omega)]
      omega
    have remainder : (e * fractionSteps + m) % fractionSteps = m - fractionSteps := by
      rw [shape, Nat.add_mul_mod_self_right, Nat.mod_eq_of_lt (by omega)]
    rw [quotient, remainder, if_neg (by omega), Nat.add_sub_cancel' least]
    rfl
  · have shape : e * fractionSteps + 2 * fractionSteps = (e + 2) * fractionSteps := by ring
    rw [shape, Nat.mul_div_cancel _ positive, Nat.mul_mod_left, if_neg (by omega),
      show e + 2 - 1 = e + 1 from rfl, Nat.pow_succ]
    ring

/-- **Positions are ordered as their values.** -/
theorem value_strictMono : StrictMono value := by
  refine strictMono_nat_of_lt_succ fun p => ?_
  have positive : 0 < fractionSteps := by decide
  have below := Nat.mod_lt p positive
  have whole : p = p / fractionSteps * fractionSteps + p % fractionSteps := (Nat.div_add_mod' ..).symm
  generalize p / fractionSteps = q at whole
  generalize p % fractionSteps = f at whole below
  subst whole
  cases q with
  | zero =>
    -- Below the normal numbers a position is its own value, and the first normal one continues them.
    have own : ∀ f, f ≤ fractionSteps → value (0 * fractionSteps + f) = f := by
      intro f le
      rcases Nat.lt_or_eq_of_le le with below | rfl
      · rw [Nat.zero_mul, Nat.zero_add, value_eq, Nat.div_eq_of_lt below, if_pos rfl,
          Nat.mod_eq_of_lt below]
      · exact (value_position (Nat.le_refl _) (by omega) 0).trans (Nat.mul_one _)
    rw [Nat.add_assoc, own f (by omega), own (f + 1) (by omega)]
    exact Nat.lt_succ_self f
  | succ e =>
    have shift (g : Nat) : (e + 1) * fractionSteps + g = e * fractionSteps + (fractionSteps + g) := by
      rw [Nat.succ_mul, Nat.add_assoc]
    rw [Nat.add_assoc, shift, shift, value_position (by omega) (by omega),
      value_position (by omega) (by omega)]
    exact Nat.mul_lt_mul_of_pos_right (by omega) (Nat.two_pow_pos e)

/-! ## §2 — what is kept of a whole number -/

/-- Between these multiples lie no binary numbers, where this whole number lies. -/
def spacing (n : Nat) : Nat :=
  2 ^ (Nat.log2 n - 52)

/-- **What is kept of a natural number**: the nearest multiple of the spacing, of two the even one. -/
def keptNat (n : Nat) : Nat :=
  roundDiv n (spacing n) * spacing n

theorem roundDiv_mul_right (num den : Nat) {c : Nat} (positive : 0 < c) :
    roundDiv (num * c) (den * c) = roundDiv num den := by
  unfold roundDiv
  rw [Nat.mul_div_mul_right _ _ positive, Nat.mul_mod_mul_right]
  have half : den * c < 2 * (num % den * c) ↔ den < 2 * (num % den) := by
    rw [← Nat.mul_assoc]
    exact Nat.mul_lt_mul_right positive
  have tie : (2 * (num % den * c) == den * c) = (2 * (num % den) == den) := by
    rw [← Nat.mul_assoc, Bool.eq_iff_iff, beq_iff_eq, beq_iff_eq]
    exact Nat.mul_left_inj (Nat.ne_of_gt positive)
  simp only [half, tie]

theorem roundDiv_one (num : Nat) : roundDiv num 1 = num := by
  simp [roundDiv, Nat.mod_one]

theorem roundDiv_zero (den : Nat) : roundDiv 0 den = 0 := by
  simp [roundDiv]

theorem le_roundDiv (num den : Nat) : num / den ≤ roundDiv num den := by
  unfold roundDiv
  simp only
  split <;> omega

theorem roundDiv_le (num den : Nat) : roundDiv num den ≤ num / den + 1 := by
  unfold roundDiv
  simp only
  split <;> omega

/-- Rounding turns no order round. -/
theorem roundDiv_mono {num num' : Nat} (le : num ≤ num') (den : Nat) :
    roundDiv num den ≤ roundDiv num' den := by
  rcases Nat.lt_or_eq_of_le (Nat.div_le_div_right le : num / den ≤ num' / den) with less | same
  · exact (roundDiv_le num den).trans ((Nat.succ_le_of_lt less).trans (le_roundDiv num' den))
  · have rest : num % den ≤ num' % den := by
      have first := Nat.div_add_mod num den
      have second := Nat.div_add_mod num' den
      rw [same] at first
      omega
    unfold roundDiv
    rw [same]
    simp only [Bool.or_eq_true, decide_eq_true_eq, Bool.and_eq_true, beq_iff_eq]
    split <;> split <;> omega

/-- A number that is kept lies between the same two powers of two. -/
theorem keptNat_bounds {n : Nat} (positive : n ≠ 0) :
    2 ^ Nat.log2 n ≤ keptNat n ∧ keptNat n ≤ 2 ^ (Nat.log2 n + 1) := by
  have least := Nat.log2_self_le positive
  have most := Nat.lt_log2_self (n := n)
  have step : 0 < spacing n := Nat.two_pow_pos _
  rcases Nat.le_total (Nat.log2 n) 52 with short | long
  · have single : spacing n = 1 := by rw [spacing, Nat.sub_eq_zero_of_le short, Nat.pow_zero]
    rw [keptNat, single, roundDiv_one, Nat.mul_one]
    exact ⟨least, most.le⟩
  · have split (k : Nat) : 2 ^ (Nat.log2 n + k) = 2 ^ (52 + k) * spacing n := by
      rw [spacing, ← Nat.pow_add]
      congr 1
      omega
    have lower : 2 ^ 52 ≤ n / spacing n := (Nat.le_div_iff_mul_le step).2 (split 0 ▸ least)
    have upper : n / spacing n < 2 ^ 53 := (Nat.div_lt_iff_lt_mul step).2 (split 1 ▸ most)
    refine ⟨?_, ?_⟩
    · rw [← Nat.add_zero (Nat.log2 n), split 0]
      exact Nat.mul_le_mul_right _ (lower.trans (le_roundDiv ..))
    · rw [split 1]
      exact Nat.mul_le_mul_right _ ((roundDiv_le ..).trans upper)

/-- **What is kept turns no order round.** -/
theorem keptNat_mono : Monotone keptNat := by
  intro n m le
  rcases Nat.eq_zero_or_pos n with rfl | positive
  · exact Nat.zero_le _
  · have positive' : m ≠ 0 := by omega
    have logs : Nat.log2 n ≤ Nat.log2 m :=
      (Nat.le_log2 positive').2 ((Nat.log2_self_le positive.ne').trans le)
    rcases Nat.lt_or_eq_of_le logs with less | same
    · calc keptNat n ≤ 2 ^ (Nat.log2 n + 1) := (keptNat_bounds positive.ne').2
        _ ≤ 2 ^ Nat.log2 m := Nat.pow_le_pow_right (by decide) less
        _ ≤ keptNat m := (keptNat_bounds positive').1
    · rw [keptNat, keptNat, spacing, spacing, same]
      exact Nat.mul_le_mul_right _ (roundDiv_mono le _)

theorem keptNat_of_le {n : Nat} (short : n ≤ 2 ^ 53) : keptNat n = n := by
  rcases Nat.lt_or_eq_of_le short with less | rfl
  · rcases Nat.eq_zero_or_pos n with rfl | positive
    · decide
    · have bits : Nat.log2 n - 52 = 0 := by
        have := (Nat.log2_lt positive.ne').2 less
        omega
      rw [keptNat, spacing, bits, Nat.pow_zero, roundDiv_one, Nat.mul_one]
  · decide +kernel

theorem log2_mul_two_pow {n : Nat} (positive : n ≠ 0) (k : Nat) :
    Nat.log2 (n * 2 ^ k) = Nat.log2 n + k := by
  have unit := Nat.two_pow_pos k
  refine (Nat.log2_eq_iff (Nat.mul_pos (Nat.pos_of_ne_zero positive) unit).ne').2 ⟨?_, ?_⟩
  · rw [Nat.pow_add]
    exact Nat.mul_le_mul_right _ (Nat.log2_self_le positive)
  · rw [Nat.add_right_comm, Nat.pow_add]
    exact Nat.mul_lt_mul_of_pos_right Nat.lt_log2_self unit

/-- A whole number has no parts below one, so its significand is rounded as the number itself is. -/
theorem roundDiv_shifted (n k : Nat) :
    roundDiv (n * 2 ^ (52 + k)) (2 ^ (Nat.log2 n + k)) * 2 ^ (Nat.log2 n + k) =
      keptNat n * 2 ^ (52 + k) := by
  rcases Nat.le_total (Nat.log2 n) 52 with short | long
  · have single : spacing n = 1 := by rw [spacing, Nat.sub_eq_zero_of_le short, Nat.pow_zero]
    have split : 2 ^ (52 + k) = 2 ^ (52 - Nat.log2 n) * 2 ^ (Nat.log2 n + k) := by
      rw [← Nat.pow_add]
      congr 1
      omega
    rw [keptNat, single, roundDiv_one, Nat.mul_one, split, ← Nat.mul_assoc]
    congr 1
    simpa only [Nat.one_mul, roundDiv_one] using
      roundDiv_mul_right (n * 2 ^ (52 - Nat.log2 n)) 1 (Nat.two_pow_pos (Nat.log2 n + k))
  · have split : 2 ^ (Nat.log2 n + k) = spacing n * 2 ^ (52 + k) := by
      rw [spacing, ← Nat.pow_add]
      congr 1
      omega
    rw [split, roundDiv_mul_right _ _ (Nat.two_pow_pos _), keptNat, Nat.mul_assoc]

theorem roundDiv_shifted_bounds {n : Nat} (positive : n ≠ 0) (k : Nat) :
    fractionSteps ≤ roundDiv (n * 2 ^ (52 + k)) (2 ^ (Nat.log2 n + k)) ∧
      roundDiv (n * 2 ^ (52 + k)) (2 ^ (Nat.log2 n + k)) ≤ 2 * fractionSteps := by
  have unit := Nat.two_pow_pos (Nat.log2 n + k)
  have steps : fractionSteps = 2 ^ 52 := rfl
  have lower : fractionSteps ≤ n * 2 ^ (52 + k) / 2 ^ (Nat.log2 n + k) := by
    refine (Nat.le_div_iff_mul_le unit).2 ?_
    calc fractionSteps * 2 ^ (Nat.log2 n + k) = 2 ^ Nat.log2 n * 2 ^ (52 + k) := by rw [steps]; ring
      _ ≤ n * 2 ^ (52 + k) := Nat.mul_le_mul_right _ (Nat.log2_self_le positive)
  have upper : n * 2 ^ (52 + k) / 2 ^ (Nat.log2 n + k) < 2 * fractionSteps := by
    refine (Nat.div_lt_iff_lt_mul unit).2 ?_
    calc n * 2 ^ (52 + k) < 2 ^ (Nat.log2 n + 1) * 2 ^ (52 + k) :=
          Nat.mul_lt_mul_of_pos_right Nat.lt_log2_self (Nat.two_pow_pos _)
      _ = 2 * fractionSteps * 2 ^ (Nat.log2 n + k) := by rw [steps]; ring
  exact ⟨lower.trans (le_roundDiv ..), (roundDiv_le ..).trans upper⟩

theorem value_min_position {m e : Nat} (least : fractionSteps ≤ m) (most : m ≤ 2 * fractionSteps)
    (small : e ≤ 1085) : value (min infinite (e * fractionSteps + m)) = m * 2 ^ e := by
  have finite : e * fractionSteps + m ≤ infinite := by
    calc e * fractionSteps + m ≤ 1085 * fractionSteps + 2 * fractionSteps :=
          Nat.add_le_add (Nat.mul_le_mul_right _ small) most
      _ ≤ infinite := by decide
  rw [Nat.min_eq_right finite, value_position least most]

/-- A value is counted in these parts of one. -/
def unit : Nat :=
  Nat.pow 2 1074

/-- Behind the 52 bits that a significand needs, the exponent stays a variable: nothing has to compute
the power. -/
theorem unit_eq : ∃ k ≤ 1022, unit = 2 ^ (52 + k) := by
  refine ⟨1022, Nat.le_refl _, ?_⟩
  unfold unit
  rw [show (1074 : Nat) = 52 + 1022 from rfl]
  generalize 52 + 1022 = bits
  exact Nat.pow_eq

theorem unit_pos : 0 < unit := by
  obtain ⟨k, -, power⟩ := unit_eq
  exact power ▸ Nat.two_pow_pos _

theorem scale_eq (num den : Nat) : scale num den = Nat.log2 (num * unit / den) - 52 := by
  unfold unit scale
  rfl

theorem nearest_eq (num den : Nat) : nearest num den =
    min infinite (scale num den * fractionSteps +
      roundDiv (num * unit) (den * Nat.pow 2 (scale num den))) := by
  unfold unit nearest
  rfl

theorem nearest_zero : nearest 0 1 = 0 := by
  simp only [nearest_eq, scale_eq, Nat.zero_mul, Nat.zero_div, Nat.log2_zero, roundDiv_zero, Nat.zero_sub,
    Nat.add_zero, Nat.min_zero]

/-- **The position nearest to a whole number of 64 bits** stands for what is kept of it. -/
theorem value_nearest {n : Nat} (small : n < 2 ^ 64) : value (nearest n 1) = keptNat n * unit := by
  rcases Nat.eq_zero_or_pos n with rfl | positive
  · have none : keptNat 0 = 0 := keptNat_of_le (Nat.zero_le _)
    rw [nearest_zero, value_zero, none, Nat.zero_mul]
  · have bits : Nat.log2 n < 64 := (Nat.log2_lt positive.ne').2 small
    obtain ⟨k, most, power⟩ := unit_eq
    have scaled : scale n 1 = Nat.log2 n + k := by
      rw [scale_eq, power, Nat.div_one, log2_mul_two_pow positive.ne']
      omega
    obtain ⟨least, most⟩ := roundDiv_shifted_bounds positive.ne' k
    rw [nearest_eq, scaled, power, Nat.one_mul, Nat.pow_eq, value_min_position least most (by omega),
      roundDiv_shifted n k]

/-! ## §3 — whole numbers with a sign -/

/-- A function of the absolute value, with the sign of the number. -/
def signed (f : Nat → Nat) (n : Int) : Int :=
  n.sign * f n.natAbs

theorem signed_natCast {f : Nat → Nat} (origin : f 0 = 0) (n : Nat) : signed f n = f n := by
  rcases Nat.eq_zero_or_pos n with rfl | positive
  · simp [signed, origin]
  · simp [signed, Int.sign_natCast_of_ne_zero positive.ne']

theorem signed_neg (f : Nat → Nat) (n : Int) : signed f (-n) = -signed f n := by
  simp [signed]

/-- The whole numbers of 64 bits, with a sign or without one. -/
def Fits64 (n : Int) : Prop :=
  -2 ^ 63 ≤ n ∧ n < 2 ^ 64

instance (n : Int) : Decidable (Fits64 n) :=
  inferInstanceAs (Decidable (_ ∧ _))

theorem Fits64.natAbs_lt {n : Int} (fits : Fits64 n) : n.natAbs < 2 ^ 64 := by
  unfold Fits64 at fits
  omega

/-- **What is kept of a whole number.** -/
def kept (n : Int) : Int :=
  signed keptNat n

/-- The two ways to go one step up: away from zero, or towards it from below. -/
theorem signed_succ {f : Nat → Nat} (origin : f 0 = 0) (n : Int) : ∃ k : Nat,
    (signed f n = f k ∧ signed f (n + 1) = f (k + 1)) ∨
      (signed f n = -f (k + 1) ∧ signed f (n + 1) = -f k) := by
  have cast := signed_natCast origin
  cases n with
  | ofNat k => exact ⟨k, .inl ⟨cast k, cast (k + 1)⟩⟩
  | negSucc k =>
    have next : Int.negSucc k + 1 = -(k : Int) := by omega
    have same : Int.negSucc k = -((k + 1 : Nat) : Int) := rfl
    exact ⟨k, .inr ⟨by rw [same, signed_neg, cast], by rw [next, signed_neg, cast]⟩⟩

theorem signed_le_signed {f : Nat → Nat} (origin : f 0 = 0) (mono : Monotone f) {n m : Int} (le : n ≤ m) :
    signed f n ≤ signed f m := by
  refine monotone_int_of_le_succ (fun n => ?_) le
  obtain ⟨k, ⟨h, h'⟩ | ⟨h, h'⟩⟩ := signed_succ origin n <;> rw [h, h'] <;>
    have := mono (Nat.le_add_right k 1) <;> omega

theorem signed_lt_signed {f : Nat → Nat} (origin : f 0 = 0) (mono : StrictMono f) {n m : Int}
    (less : n < m) : signed f n < signed f m := by
  refine strictMono_int_of_lt_succ (fun n => ?_) less
  obtain ⟨k, ⟨h, h'⟩ | ⟨h, h'⟩⟩ := signed_succ origin n <;> rw [h, h'] <;>
    have := mono (Nat.lt_add_one k) <;> omega

/-- A whole number is kept where 53 bits suffice. -/
theorem kept_of_natAbs_le {n : Int} (short : n.natAbs ≤ 2 ^ 53) : kept n = n := by
  obtain ⟨n, rfl | rfl⟩ := n.eq_nat_or_neg
  · rw [kept, signed_natCast rfl, keptNat_of_le (by omega)]
  · rw [kept, signed_neg, signed_natCast rfl, keptNat_of_le (by omega)]

theorem kept_le_kept {n m : Int} (le : n ≤ m) : kept n ≤ kept m :=
  signed_le_signed rfl keptNat_mono le

theorem signed_position {n : Int} (fits : Fits64 n) :
    signed value (ofInt n).position = kept n * unit := by
  have magnitude := value_nearest fits.natAbs_lt
  rcases Int.lt_or_le n 0 with below | above
  · have spelled : (ofInt n).position = -(nearest n.natAbs 1 : Int) := by
      simp only [position, ofInt, ofRatio, below, decide_true, if_true]
    have absolute : n = -(n.natAbs : Int) := by omega
    rw [spelled, signed_neg, signed_natCast value_zero, magnitude, absolute, kept, signed_neg,
      signed_natCast rfl, Int.natAbs_neg, Int.natAbs_natCast]
    push_cast
    ring
  · have spelled : (ofInt n).position = (nearest n.natAbs 1 : Int) := by
      simp only [position, ofInt, ofRatio, Int.not_lt.2 above, decide_false, Bool.false_eq_true, if_false]
    have absolute : n = (n.natAbs : Int) := by omega
    rw [spelled, signed_natCast value_zero, magnitude, absolute, kept, signed_natCast rfl,
      Int.natAbs_natCast]
    push_cast
    rfl

/-- **Whole numbers compare as what is kept of them.** -/
theorem order?_ofInt {n m : Int} (first : Fits64 n) (second : Fits64 m) :
    (ofInt n).order? (ofInt m) = some (compare (kept n) (kept m)) := by
  have rising : StrictMono (signed value) :=
    fun _ _ less => signed_lt_signed value_zero value_strictMono less
  have scaling : StrictMono fun k : Int => k * unit :=
    fun _ _ less => Int.mul_lt_mul_of_pos_right less (Int.natCast_pos.2 unit_pos)
  have positions : compare (ofInt n).position (ofInt m).position = compare (kept n) (kept m) := by
    rw [← cmp_eq_compare, ← cmp_eq_compare, ← rising.cmp_map_eq, signed_position first,
      signed_position second]
    exact scaling.cmp_map_eq _ _
  have numbers (k : Int) : (ofInt k).isNaN = false := isNaN_ofRatio ..
  rw [order?, numbers, numbers, positions]
  rfl

/-! ## §4 — reading a whole number back -/

theorem digitsValue_toDigits (n : Nat) : digitsValue (Nat.toDigits 10 n) = n := by
  have same : (fun (k : Nat) (c : Char) => k * 10 + (c.toNat - '0'.toNat)) =
      fun k c => 10 * k + (c.toNat - '0'.toNat) := by
    funext k c
    rw [Nat.mul_comm]
  rw [digitsValue, same]
  exact Nat.ofDigitChars_ten_toDigits

/-- Digits alone are no word for infinity, and nothing stands behind them. -/
theorem readUnsigned_digits (negative : Bool) {ds : List Char} (filled : ds ≠ [])
    (digits : ∀ c ∈ ds, c.isDigit = true) :
    readUnsigned negative ds = some (ofDecimal negative (digitsValue ds) 0) := by
  have span : spanDigits ds = (ds, []) := by
    rw [spanDigits, List.takeWhile_eq_self_iff.2 digits, List.dropWhile_eq_nil_iff.2 digits]
  have noWord {word : String} (c : Char) (spelled : String.ofList ds = word) (letter : c ∈ word.toList)
      (plain : c.isDigit = false) : False := by
    rw [← spelled, String.toList_ofList] at letter
    exact Bool.noConfusion (plain.symm.trans (digits c letter))
  have lower : Text.lower ds = ds :=
    (List.map_congr_left fun c hc =>
      Sql.toLower_eq_self (Sql.isUpper_of_isDigit (digits c hc))).trans (List.map_id ds)
  unfold readUnsigned
  rw [lower]
  split
  next word => exact (noWord 'i' word (by decide) rfl).elim
  next word => exact (noWord 'i' word (by decide) rfl).elim
  next word => exact (noWord 'n' word (by decide) rfl).elim
  · have some : ds.isEmpty = false := by simpa using filled
    simp [span, some, readExponent]

theorem ofDecimal_whole (negative : Bool) {n : Nat} (short : n < 2 ^ 64) :
    ofDecimal negative n 0 = ofRatio negative n 1 := by
  unfold ofDecimal
  split
  next none =>
    rw [none, ofRatio, nearest_zero]
    rfl
  next some =>
    have length : (Nat.toDigits 10 n).length ≤ 20 :=
      (Nat.length_toDigits_le_iff (by decide) (by decide)).2 (by omega)
    simp only
    rw [if_neg (by omega), if_neg (by omega)]
    simp

/-- **A printed whole number reads back** as the number nearest to it. -/
theorem read?_printInt {n : Int} (fits : Fits64 n) : read? (Json.printInt n) = some (ofInt n) := by
  have small := fits.natAbs_lt
  have digits : ∀ c ∈ Nat.toDigits 10 n.natAbs, c.isDigit = true := fun c hc =>
    Nat.isDigit_of_mem_toDigits (by decide) (by decide) hc
  have unsigned (negative : Bool) :
      readUnsigned negative (Nat.toDigits 10 n.natAbs) = some (ofRatio negative n.natAbs 1) := by
    rw [readUnsigned_digits negative Nat.toDigits_ne_nil digits, digitsValue_toDigits,
      ofDecimal_whole negative small]
  unfold Json.printInt ofInt
  split
  next below =>
    rw [read?, unsigned, decide_eq_true below]
  next above =>
    rw [read?.eq_def, decide_eq_false above]
    split
    next spelled => exact absurd (digits '-' (spelled ▸ List.mem_cons_self)) (by decide)
    next spelled => exact absurd (digits '+' (spelled ▸ List.mem_cons_self)) (by decide)
    next => exact unsigned false

end Gateway.Binary64
