import Gateway.Channel.ColumnFilter
import Gateway.Sql.Identifier
import Mathlib.Logic.ExistsUnique

/-!
# Operators of column filters go together

A column filter asks how a value compares to an operand. All operators read one comparison, so what they
answer goes together (`Coherent`): exactly one of `lt`, `eq` and `gt` selects the row, and the others say
what their names say. A list selects what one of its items equals.

A number and an operand that spells `nan` do not compare at all. Then no operator selects the row, not
even `neq`, and `coherent_iff` says that this is the only way in which the operators come apart.
-/

namespace Gateway.Binary64

open Gateway.Text

/-! ## §1 — operands that spell no number -/

/-- Two numbers do not compare when one of them is none. -/
theorem order?_eq_none_iff {x y : Binary64} :
    x.order? y = none ↔ x.isNaN = true ∨ y.isNaN = true := by
  unfold order?
  cases x.isNaN <;> cases y.isNaN <;> simp

/-- A decimal is a number. -/
theorem isNaN_ofDecimal (negative : Bool) (digits : Nat) (exponent : Int) :
    (ofDecimal negative digits exponent).isNaN = false := by
  unfold ofDecimal
  split
  · rfl
  · simp only
    split
    · rfl
    · split
      · rfl
      · exact isNaN_ofRatio ..

/-- The word `nan`, in any case and with any sign. -/
def SpellsNaN (text : List Char) : Prop :=
  lower text ∈ ["nan".toList, "+nan".toList, "-nan".toList]

instance (text : List Char) : Decidable (SpellsNaN text) :=
  inferInstanceAs (Decidable (_ ∈ _))

/-- A character that is no letter is the lower-case form of itself alone. -/
theorem toLower_eq_iff {c d : Char} (plain : d.isLower = false) (same : d.toLower = d) :
    c.toLower = d ↔ c = d := by
  constructor
  · rintro rfl
    cases upper : c.isUpper with
    | true => exact absurd (Sql.isLower_toLower upper) (by simp [plain])
    | false => exact (Sql.toLower_eq_self upper).symm
  · rintro rfl
    exact same

/-- A numeral without its sign is no number when it is the word for it. -/
theorem exists_isNaN_readUnsigned (negative : Bool) (s : List Char) :
    (∃ x, readUnsigned negative s = some x ∧ x.isNaN = true) ↔ lower s = "nan".toList := by
  have spelled (word : String) : String.ofList (lower s) = word ↔ lower s = word.toList := by
    rw [← String.toList_inj, String.toList_ofList]
  unfold readUnsigned
  split
  next word => simp [(spelled _).1 word, infinity, isNaN, infinite]
  next word => simp [(spelled _).1 word, infinity, isNaN, infinite]
  next word => simp [(spelled _).1 word, nan, isNaN, infinite]
  next other =>
    refine ⟨?_, fun word => absurd ((spelled _).2 word) other⟩
    rintro ⟨x, read, unordered⟩
    obtain ⟨-, read⟩ := Option.ite_none_left_eq_some.1 read
    obtain ⟨exponent, -, rfl⟩ := Option.map_eq_some_iff.1 read
    rw [isNaN_ofDecimal] at unordered
    cases unordered

/-- **An operand spells no number** when it is `nan` with a sign or without one. -/
theorem exists_isNaN_read? (s : List Char) :
    (∃ x, read? s = some x ∧ x.isNaN = true) ↔ SpellsNaN s := by
  unfold read? SpellsNaN
  split
  · rw [exists_isNaN_readUnsigned]
    simp [lower]
  · rw [exists_isNaN_readUnsigned]
    simp [lower]
  next minus plus =>
    rw [exists_isNaN_readUnsigned]
    refine ⟨fun word => word ▸ List.mem_cons_self, fun spelled => ?_⟩
    simp only [List.mem_cons, List.not_mem_nil, or_false] at spelled
    -- A text with a sign in front has been read before.
    rcases spelled with word | word | word
    · exact word
    · obtain ⟨c, rest, rfl, sign, -⟩ := List.map_eq_cons_iff.1 word
      obtain rfl := (toLower_eq_iff rfl rfl).1 sign
      exact absurd rfl (plus rest)
    · obtain ⟨c, rest, rfl, sign, -⟩ := List.map_eq_cons_iff.1 word
      obtain rfl := (toLower_eq_iff rfl rfl).1 sign
      exact absurd rfl (minus rest)

end Gateway.Binary64

namespace Gateway.Channel

open Gateway.Binary64 (SpellsNaN exists_isNaN_read? order?_eq_none_iff)

/-! ## §2 — values and operands that do not compare -/

/-- The number that a value is. -/
def number? : Json → Option Binary64
  | .int n => some (Binary64.ofInt n)
  | .float x => some x
  | _ => none

/-- **A number does not compare to a number** when one of the two is none. -/
def Unordered (value : Json) (operand : String) : Prop :=
  ∃ x y, number? value = some x ∧ Binary64.read? operand.toList = some y ∧
    (x.isNaN = true ∨ y.isNaN = true)

/-- The value is one that JSON can hold: what is no number has no place in it. -/
def IsProper (value : Json) : Prop :=
  ∀ x, number? value = some x → x.isNaN = false

/-- **Which operands a number does not compare to.** -/
theorem unordered_iff {value : Json} (proper : IsProper value) (operand : String) :
    Unordered value operand ↔ (number? value).isSome = true ∧ SpellsNaN operand.toList := by
  rw [Option.isSome_iff_exists, ← exists_isNaN_read?, exists_and_right.symm]
  refine exists_congr fun x => ?_
  constructor
  · rintro ⟨y, number, read, nan | nan⟩
    · exact absurd nan (by simp [proper x number])
    · exact ⟨number, y, read, nan⟩
  · rintro ⟨number, y, read, nan⟩
    exact ⟨y, number, read, .inr nan⟩

/-- **What does not compare**: `null`, and what is unordered. -/
theorem compareValue_eq_none_iff (value : Json) (operand : String) :
    ColumnFilter.compareValue value operand = none ↔ value = .null ∨ Unordered value operand := by
  cases value with
  | null => simp [ColumnFilter.compareValue]
  | bool | str | arr | obj => simp [ColumnFilter.compareValue, Unordered, number?]
  | int n | float x =>
    cases read : Binary64.read? operand.toList with
    | none => simp [ColumnFilter.compareValue, Unordered, number?, read]
    | some y => simp [ColumnFilter.compareValue, Unordered, number?, read, order?_eq_none_iff]

/-! ## §3 — operators -/

/-- **Operators that go together.** -/
structure Coherent (holds : ColumnOperator → Bool) : Prop where
  /-- Exactly one of less, equal and greater holds. -/
  one : ∃! op, op ∈ [ColumnOperator.lt, .eq, .gt] ∧ holds op = true
  lte : holds .lte = true ↔ holds .lt = true ∨ holds .eq = true
  gte : holds .gte = true ↔ holds .gt = true ∨ holds .eq = true
  neq : holds .neq = true ↔ ¬ holds .eq = true

/-- The operators read off one comparison go together. -/
theorem coherent_holds (o : Ordering) : Coherent fun op => op.holds o where
  one := by
    refine ⟨match o with | .lt => .lt | .eq => .eq | .gt => .gt, ?_, fun op => ?_⟩
    · cases o <;> decide
    · cases o <;> cases op <;> decide
  lte := by cases o <;> decide
  gte := by cases o <;> decide
  neq := by cases o <;> decide

/-- Operators of which none holds do not go together. -/
theorem not_coherent_of_none {holds : ColumnOperator → Bool} (none : ∀ op, holds op = false) :
    ¬ Coherent holds := by
  intro coherent
  have other := coherent.neq.2 (by simp [none])
  rw [none] at other
  cases other

namespace ColumnFilter

/-- The filter that asks something else of the same column. -/
def asking (f : ColumnFilter) (op : ColumnOperator) (operands : List String) : ColumnFilter :=
  { f with operator := op, operands }

variable {f : ColumnFilter} {row : Option Json} {value : Json}

/-- One operand is compared to the value in the column. -/
theorem selects_asking (present : row.bind (Json.member? f.column) = some value) (op : ColumnOperator)
    (operand : String) :
    (f.asking op [operand]).selects row = (compareValue value operand).any op.holds := by
  simp [selects, admits, asking, present]

/-- Nothing is selected where nothing compares. -/
theorem selects_of_unordered (present : row.bind (Json.member? f.column) = some value) (operand : String)
    (unordered : Unordered value operand) (op : ColumnOperator) :
    (f.asking op [operand]).selects row = false := by
  rw [selects_asking present, (compareValue_eq_none_iff value operand).2 (.inr unordered)]
  rfl

/-- A list selects what one of its items equals. -/
theorem selects_oneOf (f : ColumnFilter) (row : Option Json) (operands : List String) :
    (f.asking .oneOf operands).selects row = true ↔
      ∃ operand ∈ operands, (f.asking .eq [operand]).selects row = true := by
  have same : ColumnOperator.oneOf.holds = ColumnOperator.eq.holds := rfl
  cases present : row.bind (Json.member? f.column) with
  | none => simp [selects, asking, present]
  | some value => simp [selects, admits, asking, present, same]

/-- What is missing or `null` is not selected. -/
theorem selects_of_missing (missing : ∀ value, row.bind (Json.member? f.column) = some value →
    value = .null) (op : ColumnOperator) (operands : List String) :
    (f.asking op operands).selects row = false := by
  cases present : row.bind (Json.member? f.column) with
  | none => simp [selects, asking, present]
  | some value =>
    obtain rfl := missing value present
    simp [selects, admits, asking, present, compareValue]

end ColumnFilter

/-- **The operators of a column filter go together, unless a number meets an operand that spells none**;
then none of them selects the row. A list selects what one of its items equals, and nothing selects a row
that is missing, has no such column or has `null` in it. -/
theorem ColumnFilter.coherent_iff (f : ColumnFilter) (row : Option Json) :
    (∀ value, row.bind (Json.member? f.column) = some value → value ≠ .null → ∀ operand,
      (Coherent (fun op => (f.asking op [operand]).selects row) ↔ ¬ Unordered value operand) ∧
      (Unordered value operand → ∀ op, (f.asking op [operand]).selects row = false) ∧
      (IsProper value →
        (Unordered value operand ↔ (number? value).isSome = true ∧ SpellsNaN operand.toList))) ∧
    (∀ operands, (f.asking .oneOf operands).selects row = true ↔
      ∃ operand ∈ operands, (f.asking .eq [operand]).selects row = true) ∧
    ((∀ value, row.bind (Json.member? f.column) = some value → value = .null) →
      ∀ op operands, (f.asking op operands).selects row = false) := by
  refine ⟨fun value present filled operand => ?_, f.selects_oneOf row, selects_of_missing⟩
  have silent := selects_of_unordered present operand
  refine ⟨⟨fun coherent unordered => not_coherent_of_none (silent unordered) coherent, fun ordered => ?_⟩,
    silent, fun proper => unordered_iff proper operand⟩
  have compares : compareValue value operand ≠ none := by
    rw [ne_eq, compareValue_eq_none_iff]
    exact not_or.2 ⟨filled, ordered⟩
  obtain ⟨o, compared⟩ := Option.ne_none_iff_exists'.1 compares
  have read : (fun op => (f.asking op [operand]).selects row) = fun op => op.holds o := by
    funext op
    rw [selects_asking present, compared]
    rfl
  exact read ▸ coherent_holds o

/-- A whole number is one that JSON can hold. -/
theorem isProper_int (n : Int) : IsProper (.int n) := by
  rintro x number
  obtain rfl := Option.some.inj number
  exact Binary64.isNaN_ofRatio ..

/-- A number and a word compare by their texts. -/
theorem ColumnFilter.coherent_iff_word :
    let f : ColumnFilter := ⟨"id=lt.five", "id", .lt, ["five"]⟩
    let row : Option Json := some (.obj [("id", .int 5)])
    ColumnFilter.read "id=lt.five" = .ok f ∧ row.bind (Json.member? f.column) = some (.int 5) ∧
      Coherent fun op => (f.asking op ["five"]).selects row := by
  intro f row
  have read : ColumnFilter.read "id=lt.five" = .ok f := by rfl
  have present : row.bind (Json.member? f.column) = some (.int 5) := by rfl
  obtain ⟨answers, -⟩ := coherent_iff f row
  obtain ⟨coherent, -, spelled⟩ := answers _ present (by simp) "five"
  refine ⟨read, present, coherent.2 fun unordered => ?_⟩
  exact absurd ((spelled (isProper_int 5)).1 unordered).2 (by decide)

/-- **A number is neither `nan` nor anything else**: no operator selects it. -/
theorem ColumnFilter.incoherent_nan :
    let f : ColumnFilter := ⟨"id=neq.nan", "id", .neq, ["nan"]⟩
    let g : ColumnFilter := ⟨"id=eq.nan", "id", .eq, ["nan"]⟩
    let row : Option Json := some (.obj [("id", .int 5)])
    ColumnFilter.read "id=neq.nan" = .ok f ∧ ColumnFilter.read "id=eq.nan" = .ok g ∧
      f.selects row = false ∧ g.selects row = false ∧
      ¬ Coherent fun op => (f.asking op ["nan"]).selects row := by
  intro f g row
  have present : row.bind (Json.member? f.column) = some (.int 5) := by rfl
  have unordered : Unordered (.int 5) "nan" := (unordered_iff (isProper_int 5) "nan").2 (by decide)
  have silent := selects_of_unordered present "nan" unordered
  exact ⟨by rfl, by rfl, silent .neq, silent .eq, not_coherent_of_none silent⟩

end Gateway.Channel
