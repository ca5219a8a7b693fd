/-!
# Identifiers

A table, column or function name that may be written into a statement. A client spells it with
letters, digits, underscores and hyphens; the stored form is canonical: lower case, with every hyphen
rewritten to an underscore. The canonical form is part of the type, so a quoted identifier can hold
neither a quote nor a backslash.

Main statements: `read?_isSome_iff`, exactly the spellings `[A-Za-z_][A-Za-z0-9_-]*` are names, and
`read?_text`, a canonical name reads as itself.
-/

namespace Gateway.Sql

/-- A character that may start a canonical name. -/
def isNameStart (c : Char) : Bool :=
  c.isLower || c == '_'

/-- A character that may continue a canonical name. -/
def isNamePart (c : Char) : Bool :=
  isNameStart c || c.isDigit

/-- The shape `[a-z_][a-z0-9_]*`. -/
def isCanonical : List Char → Bool
  | [] => false
  | c :: rest => isNameStart c && rest.all isNamePart

/-- The shape `[A-Za-z_][A-Za-z0-9_-]*` in which a client spells a name. -/
def isSpelling : List Char → Bool
  | [] => false
  | c :: rest =>
    (c.isAlpha || c == '_') && rest.all fun d => d.isAlphanum || d == '_' || d == '-'

/-- A spelling has no other characters. -/
theorem notMem_of_isSpelling {text : List Char} {c : Char} (h : isSpelling text = true)
    (odd : (c.isAlphanum || c == '_' || c == '-') = false) : c ∉ text := by
  intro mem
  cases text with
  | nil => cases mem
  | cons d rest =>
    rw [isSpelling, Bool.and_eq_true, List.all_eq_true] at h
    rcases List.mem_cons.1 mem with rfl | mem
    · rw [Bool.or_eq_false_iff, Bool.or_eq_false_iff, Char.isAlphanum, Bool.or_eq_false_iff] at odd
      simp [odd] at h
    · exact absurd (h.2 c mem) (by simp [odd])

/-- The canonical character that a spelled character stands for. -/
def canonicalChar (c : Char) : Char :=
  if c = '-' then '_' else c.toLower

/-! ## From a spelling to the canonical form -/

/-- The upper-case letters by their numbers. -/
theorem isUpper_iff {c : Char} : c.isUpper = true ↔ 65 ≤ c.val.toNat ∧ c.val.toNat ≤ 90 := by
  change decide (c.val ≥ 'A'.val ∧ c.val ≤ 'Z'.val) = true ↔ _
  rw [decide_eq_true_eq]
  exact Iff.rfl

/-- The lower-case letters by their numbers. -/
theorem isLower_iff {c : Char} : c.isLower = true ↔ 97 ≤ c.val.toNat ∧ c.val.toNat ≤ 122 := by
  change (decide (c.val ≥ 'a'.val) && decide (c.val ≤ 'z'.val)) = true ↔ _
  rw [Bool.and_eq_true, decide_eq_true_eq, decide_eq_true_eq]
  exact Iff.rfl

/-- The digits by their numbers. -/
theorem isDigit_iff {c : Char} : c.isDigit = true ↔ 48 ≤ c.val.toNat ∧ c.val.toNat ≤ 57 := by
  change (decide (c.val ≥ '0'.val) && decide (c.val ≤ '9'.val)) = true ↔ _
  rw [Bool.and_eq_true, decide_eq_true_eq, decide_eq_true_eq]
  exact Iff.rfl

/-- A letter of one case is a letter. -/
theorem isAlpha_iff {c : Char} :
    c.isAlpha = true ↔ c.isUpper = true ∨ c.isLower = true := by
  change (c.isUpper || c.isLower) = true ↔ _
  rw [Bool.or_eq_true]

/-- An upper-case letter has a lower-case form. -/
theorem isLower_toLower {c : Char} (h : c.isUpper = true) : c.toLower.isLower = true := by
  rw [isUpper_iff] at h
  have step : c.toLower.val.toNat = c.val.toNat + 32 := by
    unfold Char.toLower
    rw [dif_pos ⟨UInt32.le_iff_toNat_le.2 h.1, UInt32.le_iff_toNat_le.2 h.2⟩]
    have shift : ('a'.val - 'A'.val).toNat = 32 := rfl
    simp only [UInt32.toNat_add]
    omega
  rw [isLower_iff]
  omega

/-- Any other character is its own lower-case form. -/
theorem toLower_eq_self {c : Char} (h : c.isUpper = false) : c.toLower = c := by
  unfold Char.toLower
  rw [dif_neg]
  intro upper
  exact Bool.false_ne_true (h.symm.trans (isUpper_iff.2 upper))

/-- No lower-case letter is an upper-case one. -/
theorem isUpper_of_isLower {c : Char} (h : c.isLower = true) : c.isUpper = false := by
  rw [isLower_iff] at h
  rw [Bool.eq_false_iff, ne_eq, isUpper_iff]
  omega

/-- No digit is an upper-case letter. -/
theorem isUpper_of_isDigit {c : Char} (h : c.isDigit = true) : c.isUpper = false := by
  rw [isDigit_iff] at h
  rw [Bool.eq_false_iff, ne_eq, isUpper_iff]
  omega

/-- A letter or underscore becomes a character that may start a canonical name. -/
theorem isNameStart_canonicalChar {c : Char} (h : (c.isAlpha || c == '_') = true) :
    isNameStart (canonicalChar c) = true := by
  simp only [Bool.or_eq_true, beq_iff_eq] at h
  rcases h with letter | rfl
  · have notDash : c ≠ '-' := by rintro rfl; simp at letter
    simp only [canonicalChar, if_neg notDash, isNameStart, Bool.or_eq_true]
    refine Or.inl ?_
    cases up : c.isUpper with
    | true => exact isLower_toLower up
    | false => simpa [toLower_eq_self up, isAlpha_iff, up] using letter
  · decide

/-- Every character of a spelling becomes one that may continue a canonical name. -/
theorem isNamePart_canonicalChar {c : Char}
    (h : (c.isAlphanum || c == '_' || c == '-') = true) : isNamePart (canonicalChar c) = true := by
  by_cases start : (c.isAlpha || c == '_') = true
  · simp [isNamePart, isNameStart_canonicalChar start]
  · simp only [Char.isAlphanum, Bool.or_eq_true, beq_iff_eq, not_or] at h start
    rcases h with ((letter | digit) | under) | rfl
    · exact absurd letter start.1
    · have notDash : c ≠ '-' := by rintro rfl; simp at digit
      simp [canonicalChar, if_neg notDash, isNamePart, toLower_eq_self (isUpper_of_isDigit digit),
        digit]
    · exact absurd under start.2
    · decide

/-- The canonical form of a spelling is canonical. -/
theorem isCanonical_map {s : List Char} (h : isSpelling s = true) :
    isCanonical (s.map canonicalChar) = true := by
  cases s with
  | nil => simp [isSpelling] at h
  | cons c rest =>
    simp only [isSpelling, Bool.and_eq_true, List.all_eq_true] at h
    simp only [List.map_cons, isCanonical, Bool.and_eq_true, List.all_eq_true, List.mem_map]
    refine ⟨isNameStart_canonicalChar h.1, ?_⟩
    rintro _ ⟨d, hd, rfl⟩
    exact isNamePart_canonicalChar (h.2 d hd)

/-- What stands in front of the end of a canonical text makes another end canonical too. -/
theorem isCanonical_append {front back other : List Char} (whole : isCanonical (front ++ back) = true)
    (tail : isCanonical other = true) : isCanonical (front ++ other) = true := by
  cases front with
  | nil => exact tail
  | cons c rest =>
    cases other with
    | nil => simp [isCanonical] at tail
    | cons d more =>
      simp only [List.cons_append, isCanonical, Bool.and_eq_true, List.all_append, List.all_cons] at *
      refine ⟨whole.1, whole.2.1, ?_, tail.2⟩
      rw [isNamePart, tail.1, Bool.true_or]

/-! ## The type of names -/

/-- A name in canonical form. -/
structure Identifier where
  /-- The name itself. -/
  text : String
  /-- The name is canonical. -/
  canonical : isCanonical text.toList = true
deriving DecidableEq, Repr

namespace Identifier

/-- Names are told apart by their texts. -/
theorem text_inj {a b : Identifier} : a.text = b.text ↔ a = b := by
  constructor
  · intro same
    cases a
    cases b
    cases same
    rfl
  · rintro rfl
    rfl

/-- A name has a first character. -/
theorem exists_cons (name : Identifier) :
    ∃ c rest, name.text.toList = c :: rest ∧ isNameStart c = true := by
  have canonical := name.canonical
  cases shape : name.text.toList with
  | nil => simp [shape, isCanonical] at canonical
  | cons c rest =>
    rw [shape, isCanonical, Bool.and_eq_true] at canonical
    exact ⟨c, rest, rfl, canonical.1⟩

/-- Every character of a name may continue a name. -/
theorem isNamePart_of_mem {name : Identifier} {c : Char} (mem : c ∈ name.text.toList) :
    isNamePart c = true := by
  have canonical := name.canonical
  cases shape : name.text.toList with
  | nil => simp [shape] at mem
  | cons d rest =>
    rw [shape] at mem canonical
    rw [isCanonical, Bool.and_eq_true, List.all_eq_true] at canonical
    rcases List.mem_cons.1 mem with rfl | mem
    · rw [isNamePart, canonical.1, Bool.true_or]
    · exact canonical.2 c mem

theorem notMem_of_odd {c : Char} (odd : isNamePart c = false) (name : Identifier) :
    c ∉ name.text.toList := by
  intro mem
  rw [isNamePart_of_mem mem] at odd
  cases odd

/-- Read a client's spelling of a name. -/
def read? (raw : List Char) : Option Identifier :=
  if h : isSpelling raw = true then
    some ⟨String.ofList (raw.map canonicalChar), by
      rw [String.toList_ofList]; exact isCanonical_map h⟩
  else none

/-- The name between double quotes, as a statement writes it. -/
def quoted (name : Identifier) : String :=
  "\"" ++ name.text ++ "\""

/-- The name between single quotes, as a statement writes a key or a language. -/
def literal (name : Identifier) : String :=
  "'" ++ name.text ++ "'"

/-- The column `id`. -/
def id : Identifier := ⟨"id", by decide⟩

/-- The alias under which the rows of a whole statement are gathered. -/
def rowAlias : Identifier := ⟨"_r", by decide⟩

/-- The alias of the `index`-th related table of a select list. -/
def embedAlias (index : Nat) : Identifier where
  text := "_e" ++ toString index
  canonical := by
    have digits : ∀ c ∈ Nat.toDigits 10 index, isNamePart c = true := fun c hc => by
      simp [isNamePart, Nat.isDigit_of_mem_toDigits (by decide) (by decide) hc]
    have spelled : ("_e" ++ toString index).toList = '_' :: 'e' :: Nat.toDigits 10 index := by
      rw [String.toList_append, show toString index = Nat.repr index from rfl,
        Nat.repr_eq_ofList_toDigits]
      exact congrArg ('_' :: 'e' :: ·) String.toList_ofList
    rw [spelled]
    simpa [isCanonical, isNameStart, isNamePart] using digits

/-- The name with `_id` added, the usual name of a column that refers to it. -/
def withIdSuffix (stem : List Char) : Option Identifier :=
  read? (stem ++ ['_', 'i', 'd'])

/-! ## Reading -/

/-- Exactly the spellings are names. -/
theorem read?_isSome_iff {raw : List Char} : (read? raw).isSome ↔ isSpelling raw = true := by
  unfold read?
  split <;> simp_all

/-- A canonical character stands for itself. -/
theorem canonicalChar_of_isNamePart {c : Char} (h : isNamePart c = true) : canonicalChar c = c := by
  have notDash : c ≠ '-' := by rintro rfl; simp [isNamePart, isNameStart] at h
  have notUpper : c.isUpper = false := by
    simp only [isNamePart, isNameStart, Bool.or_eq_true, beq_iff_eq] at h
    rcases h with (low | rfl) | digit
    · exact isUpper_of_isLower low
    · decide
    · exact isUpper_of_isDigit digit
  rw [canonicalChar, if_neg notDash, toLower_eq_self notUpper]

/-- A canonical name is a spelling, and its canonical form is itself. -/
theorem isSpelling_of_isCanonical {s : List Char} (h : isCanonical s = true) :
    isSpelling s = true ∧ s.map canonicalChar = s := by
  cases s with
  | nil => simp [isCanonical] at h
  | cons c rest =>
    simp only [isCanonical, Bool.and_eq_true, List.all_eq_true] at h
    refine ⟨?_, ?_⟩
    · simp only [isSpelling, Bool.and_eq_true, List.all_eq_true]
      refine ⟨?_, fun d hd => ?_⟩
      · have start := h.1
        simp only [isNameStart, Bool.or_eq_true, beq_iff_eq] at start
        rcases start with low | rfl
        · simp [isAlpha_iff, low]
        · decide
      · have part := h.2 d hd
        simp only [isNamePart, isNameStart, Bool.or_eq_true, beq_iff_eq] at part
        rcases part with (low | rfl) | digit
        · simp [Char.isAlphanum, isAlpha_iff, low]
        · decide
        · simp [Char.isAlphanum, digit]
    · rw [List.map_congr_left (g := fun c => c) ?_, List.map_id']
      intro d hd
      rcases List.mem_cons.1 hd with rfl | hd
      · exact canonicalChar_of_isNamePart (by simp [isNamePart, h.1])
      · exact canonicalChar_of_isNamePart (h.2 d hd)

/-- A canonical name reads as itself. -/
@[simp] theorem read?_text (name : Identifier) : read? name.text.toList = some name := by
  obtain ⟨spelled, fixed⟩ := isSpelling_of_isCanonical name.canonical
  rw [read?, dif_pos spelled]
  congr
  rw [fixed, String.ofList_toList]

/-- What is read is spelled as a name. -/
theorem isSpelling_of_read? {raw : List Char} {name : Identifier} (h : read? raw = some name) :
    isSpelling raw = true :=
  read?_isSome_iff.1 (Option.isSome_of_eq_some h)

/-- **A canonical text reads as the name it is.** -/
theorem read?_eq_some_iff_of_isCanonical {raw : List Char} (h : isCanonical raw = true)
    {name : Identifier} : read? raw = some name ↔ name.text = String.ofList raw := by
  have canonical : isCanonical (String.ofList raw).toList = true := by rwa [String.toList_ofList]
  have read := read?_text ⟨String.ofList raw, canonical⟩
  rw [String.toList_ofList] at read
  rw [read, Option.some.injEq, Identifier.mk.injEq, eq_comm]

end Identifier

end Gateway.Sql
