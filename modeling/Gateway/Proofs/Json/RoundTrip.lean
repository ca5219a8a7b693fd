import Gateway.Json.Printer
import Gateway.Proofs.Json.Canonical
import Gateway.Proofs.Text.Uuid
import Mathlib.Data.List.DropRight

/-!
# Reading what was printed

A value whose whole numbers have 64 bits reads back from its text (`readsBack`), wherever the text stands,
as long as nothing follows that could belong to a number, and as long as its arrays and objects nest no
deeper than the reader allows. Of the binary numbers inside it the same is asked, as `Legible`; a value
that has none is always legible.

A string is read character by character, so it is enough that each escape reads back (`readChars_escape`).
For arrays and objects the reader needs fuel; twice the length of the text is always enough.
-/

namespace Gateway.Json

open Gateway.Binary64 (Fits64)
open Gateway.Text (hexValue? hexValue?_digitChar maxUnsigned64)

/-! ## §1 — strings -/

/-- Four digits that spell a character below U+0100. -/
theorem hex4?_hexDigit {n : Nat} (small : n < 0x100) :
    hex4? '0' '0' (hexDigit (n / 16)) (hexDigit (n % 16)) = some n := by
  have high : hexValue? (hexDigit (n / 16)) = some (n / 16) := hexValue?_digitChar (by omega)
  have low : hexValue? (hexDigit (n % 16)) = some (n % 16) := hexValue?_digitChar (by omega)
  have zero : hexValue? '0' = some 0 := by decide
  have whole : ((0 * 16 + 0) * 16 + n / 16) * 16 + n % 16 = n := by omega
  simp only [hex4?, zero, high, low, bind, Option.bind, pure, whole]

/-- **A character reads back** from what a string writes for it. -/
theorem readChars_escape (c : Char) (rest : List Char) :
    readChars .strict (escapeChar c ++ rest) = consChar c (readChars .strict rest) := by
  unfold escapeChar
  split
  next quote =>
    subst quote
    rfl
  next noQuote =>
    split
    next slash =>
      subst slash
      rfl
    next noSlash =>
      split
      next plain =>
        have whole : ¬c.toNat < 0x20 := Nat.not_lt.2 plain
        rw [List.singleton_append, readChars.eq_def]
        split
        all_goals simp_all
      next control =>
        have named (d : Char) (same : c.toNat = d.toNat) : c = d := Char.toNat_inj.1 same
        have below : c.toNat < 0x20 := Nat.not_le.1 control
        split
        next code => rw [named '\x08' code]; rfl
        next =>
          split
          next code => rw [named '\t' code]; rfl
          next =>
            split
            next code => rw [named '\n' code]; rfl
            next =>
              split
              next code => rw [named '\x0c' code]; rfl
              next =>
                split
                next code => rw [named '\r' code]; rfl
                next =>
                  have single : (decide (c.toNat < 0xD800) || decide (0xE000 ≤ c.toNat)) = true := by
                    simp only [Bool.or_eq_true, decide_eq_true_eq]
                    omega
                  simp only [List.cons_append, List.nil_append, readChars,
                    hex4?_hexDigit (show c.toNat < 0x100 by omega), single, if_true, Char.ofNat_toNat]

/-- **A string reads back** behind its opening quote. -/
theorem readChars_flatMap (cs rest : List Char) :
    readChars .strict (cs.flatMap escapeChar ++ '"' :: rest) = some (cs, rest) := by
  induction cs with
  | nil => rfl
  | cons c cs ih =>
    rw [List.flatMap_cons, List.append_assoc, readChars_escape, ih]
    rfl

theorem printString_append (s : String) (rest : List Char) :
    printString s ++ rest = '"' :: (s.toList.flatMap escapeChar ++ '"' :: rest) := by
  rw [printString, List.cons_append, List.append_assoc]
  rfl

/-! ## §2 — whole numbers -/

/-- What can follow a value inside a text. -/
def Ends (rest : List Char) : Prop :=
  ∀ c ∈ rest.head?, c ∈ [',', ']', '\x7d']

theorem Ends.nil : Ends [] := by simp [Ends]

theorem Ends.cons {c : Char} (mark : c ∈ [',', ']', '\x7d']) (rest : List Char) : Ends (c :: rest) := by
  simpa [Ends] using mark

/-- A digit is none of the characters that are no digits. -/
theorem notMem_of_isDigit {c : Char} (digit : c.isDigit = true) {marks : List Char}
    (plain : marks.all (!·.isDigit) = true) : c ∉ marks := by
  intro mem
  have other := List.all_eq_true.1 plain c mem
  rw [digit] at other
  cases other

theorem takeDigits_append {ds rest : List Char} (digits : ∀ c ∈ ds, c.isDigit = true) (ends : Ends rest) :
    takeDigits (ds ++ rest) = (ds, rest) := by
  rw [takeDigits, List.takeWhile_append_of_pos digits, List.dropWhile_append_of_pos digits]
  cases rest with
  | nil => simp
  | cons c rest =>
    have other : c.isDigit = false :=
      Bool.eq_false_iff.2 fun digit => notMem_of_isDigit digit (by decide) (ends c rfl)
    simp [other]

theorem readFraction_of_ends {rest : List Char} (ends : Ends rest) : readFraction rest = some ([], rest) := by
  unfold readFraction
  split
  next => exact absurd (ends '.' rfl) (by decide)
  next => rfl

theorem readPower_of_ends {rest : List Char} (ends : Ends rest) : readPower rest = some (none, rest) := by
  cases rest with
  | nil => rfl
  | cons c rest =>
    have other : (decide (c = 'e') || decide (c = 'E')) = false := by
      have mark := ends c rfl
      simp only [List.mem_cons, List.not_mem_nil, or_false] at mark
      rcases mark with rfl | rfl | rfl <;> rfl
    rw [readPower.eq_def]
    simp only [other]
    rfl

/-- No number but zero starts with the digit zero. -/
theorem head?_toDigits {n : Nat} (positive : n ≠ 0) : (Nat.toDigits 10 n).head? ≠ some '0' := by
  induction n using Nat.strongRecOn with
  | ind n ih =>
    rw [Nat.toDigits_eq_if (by decide)]
    split
    next small =>
      have single : ∀ k < 10, k ≠ 0 → [k.digitChar].head? ≠ some '0' := by decide
      exact single n small positive
    next large =>
      rw [List.head?_append_of_ne_nil _ Nat.toDigits_ne_nil]
      exact ih (n / 10) (by omega) (by omega)

/-- The value of digits behind a number. -/
def shifted (m : Nat) (ds : List Char) : Nat :=
  ds.foldl (fun n c => n * 10 + (c.toNat - '0'.toNat)) m

theorem le_shifted (m : Nat) (ds : List Char) : m ≤ shifted m ds := by
  induction ds generalizing m with
  | nil => exact Nat.le_refl m
  | cons c ds ih => exact Nat.le_trans (by omega) (ih (m * 10 + (c.toNat - '0'.toNat)))

/-- Digits of a number of 64 bits are all gathered. -/
theorem gather_digits (ds : List Char) {m : Nat} (taken : Nat) (small : shifted m ds ≤ maxUnsigned64) :
    gather m taken ds = (shifted m ds, taken + ds.length) := by
  induction ds generalizing m taken with
  | nil => rfl
  | cons c ds ih =>
    have next : m * 10 + (c.toNat - '0'.toNat) ≤ maxUnsigned64 := (le_shifted _ ds).trans small
    rw [gather, if_pos next, ih (taken + 1) small, List.length_cons]
    exact Prod.ext rfl (by omega)

theorem readNumber_toDigits (negative : Bool) {n : Nat} (small : n ≤ maxUnsigned64) {rest : List Char}
    (ends : Ends rest) :
    readNumber .strict negative (Nat.toDigits 10 n ++ rest) = some (wholeNumber negative n, rest) := by
  have digits : ∀ c ∈ Nat.toDigits 10 n, c.isDigit = true := fun c hc =>
    Nat.isDigit_of_mem_toDigits (by decide) (by decide) hc
  have value : shifted 0 (Nat.toDigits 10 n) = n := Binary64.digitsValue_toDigits n
  have gathered := gather_digits (Nat.toDigits 10 n) (m := 0) 0 (value.symm ▸ small)
  have filled : (Nat.toDigits 10 n).isEmpty = false := by simp [Nat.toDigits_ne_nil]
  have noZero : (decide ((Nat.toDigits 10 n).head? = some '0') &&
      decide (1 < (Nat.toDigits 10 n).length)) = false := by
    rcases Nat.eq_zero_or_pos n with rfl | positive
    · decide
    · rw [decide_eq_false (head?_toDigits positive.ne'), Bool.false_and]
  rw [value, Nat.zero_add] at gathered
  simp only [readNumber, takeDigits_append digits ends, filled, noZero, readFraction_of_ends ends,
    readPower_of_ends ends, gathered, bind, Option.bind, pure, Nat.sub_self]
  rfl

/-- A whole number is written as its decimal. -/
theorem text_int (n : Int) : (int n).text = toString n := by
  show String.ofList (printInt n) = n.repr
  unfold printInt
  cases n with
  | ofNat m =>
    rw [if_neg (show ¬ Int.ofNat m < 0 from Int.not_lt.2 (Int.natCast_nonneg m))]
    rfl
  | negSucc m =>
    rw [if_pos (Int.negSucc_lt_zero m), ← List.singleton_append]
    exact String.ofList_append

/-- A character that is no blank is not skipped. -/
theorem skipBlank_cons {c : Char} (solid : c ∉ [' ', '\n', '\t', '\r']) (s : List Char) :
    skipBlank (c :: s) = c :: s := by
  simp only [List.mem_cons, List.not_mem_nil, or_false, not_or] at solid
  simp [skipBlank, solid]

/-- A digit opens a number. -/
theorem readValue_digit (r : Rigour) (depth fuel : Nat) {c : Char} (digit : c.isDigit = true)
    (s : List Char) : readValue r depth (fuel + 1) (c :: s) = readNumber r false (c :: s) := by
  have other {d : Char} (plain : d.isDigit = false) : c ≠ d := by
    rintro rfl
    exact Bool.noConfusion (plain.symm.trans digit)
  rw [readValue, skipBlank_cons (notMem_of_isDigit digit (by decide))]
  split
  next same => exact absurd (List.cons.inj same).1 (other rfl)
  next same => exact absurd (List.cons.inj same).1 (other rfl)
  next same => exact absurd (List.cons.inj same).1 (other rfl)
  next same => exact absurd (List.cons.inj same).1 (other rfl)
  next same => exact absurd (List.cons.inj same).1 (other rfl)
  next same => exact absurd (List.cons.inj same).1 (other rfl)
  next same => exact absurd (List.cons.inj same).1 (other rfl)
  next same =>
    obtain ⟨rfl, rfl⟩ := List.cons.inj same
    rw [if_pos digit]
  next same => cases same

/-- **A whole number reads back** from its decimal. -/
theorem readValue_printInt {n : Int} (fits : Fits64 n) (depth fuel : Nat) {rest : List Char}
    (ends : Ends rest) :
    readValue .strict depth (fuel + 1) (printInt n ++ rest) = some (.int n, rest) := by
  unfold Fits64 at fits
  unfold printInt
  split
  next below =>
    have small : n.natAbs ≤ maxUnsigned64 := by
      unfold maxUnsigned64
      omega
    have whole : wholeNumber true n.natAbs = .int n := by
      have inside : (decide (n.natAbs = 0) || decide (0x8000000000000000 < n.natAbs)) = false := by
        simp only [Bool.or_eq_false_iff, decide_eq_false_iff_not]
        omega
      have value : -(n.natAbs : Int) = n := by omega
      rw [wholeNumber, inside]
      exact congrArg Json.int value
    exact (readNumber_toDigits true small ends).trans (by rw [whole])
  next above =>
    have small : n.natAbs ≤ maxUnsigned64 := by
      unfold maxUnsigned64
      omega
    have whole : wholeNumber false n.natAbs = .int n := congrArg Json.int (Int.natAbs_of_nonneg (by omega))
    have number := readNumber_toDigits false small ends
    obtain ⟨c, more, shape⟩ := List.exists_cons_of_ne_nil (Nat.toDigits_ne_nil (b := 10) (n := n.natAbs))
    have digit : c.isDigit = true :=
      Nat.isDigit_of_mem_toDigits (by decide) (by decide) (shape ▸ List.mem_cons_self)
    rw [shape, List.cons_append] at number ⊢
    rw [readValue_digit _ _ _ digit, number, whole]

/-! ## §3 — values -/

/-- **A value reads back from its text**, at any depth that has room for it and with fuel for its
characters. -/
def ReadsBack (value : Json) : Prop :=
  ∀ depth fuel rest, value.depth ≤ depth → 2 * value.chars.length ≤ fuel + 1 → Ends rest →
    readValue .strict depth fuel (value.chars ++ rest) = some (value, rest)

/-- Nothing is read without fuel, so a value that reads back has a text. -/
theorem ReadsBack.length_pos {value : Json} (back : value.ReadsBack) : 0 < value.chars.length := by
  by_contra empty
  have read := back value.depth 0 [] (Nat.le_refl _) (by omega) .nil
  cases read

theorem itemChars_cons (value next : Json) (items : List Json) :
    itemChars (value :: next :: items) = value.chars ++ ',' :: itemChars (next :: items) := rfl

theorem memberChars_cons (k : String) (value : Json) (next : String × Json)
    (members : List (String × Json)) : memberChars ((k, value) :: next :: members) =
      printString k ++ ':' :: (value.chars ++ ',' :: memberChars (next :: members)) := rfl

/-- **Items read back** when each of them does. -/
theorem readItems_itemChars {items : List Json} (filled : items ≠ [])
    (each : ∀ value ∈ items, value.ReadsBack) {depth : Nat}
    (room : ∀ value ∈ items, value.depth ≤ depth) (fuel : Nat)
    (fuelled : 2 * (itemChars items).length ≤ fuel) (rest : List Char) :
    readItems .strict depth fuel (itemChars items ++ ']' :: rest) = some (items, rest) := by
  induction items generalizing fuel with
  | nil => exact absurd rfl filled
  | cons value items ih =>
    have first := each value List.mem_cons_self
    have fits := room value List.mem_cons_self
    have some := first.length_pos
    cases items with
    | nil =>
      have enough : 2 * value.chars.length ≤ fuel := fuelled
      obtain ⟨fuel, rfl⟩ : ∃ k, fuel = k + 1 := ⟨fuel - 1, by omega⟩
      exact readItems_eq_some_iff.2 ⟨value, _,
        first depth fuel (']' :: rest) fits enough (.cons (by decide) rest),
        .last (skipBlank_cons (by decide) rest)⟩
    | cons next items =>
      rw [itemChars_cons] at fuelled ⊢
      simp only [List.length_append, List.length_cons] at fuelled
      obtain ⟨fuel, rfl⟩ : ∃ k, fuel = k + 1 := ⟨fuel - 1, by omega⟩
      have later := ih (List.cons_ne_nil _ _) (fun v mem => each v (List.mem_cons_of_mem _ mem))
        (fun v mem => room v (List.mem_cons_of_mem _ mem)) fuel (by omega)
      rw [List.append_assoc, List.cons_append]
      exact readItems_eq_some_iff.2 ⟨value, _, first depth fuel _ fits (by omega) (.cons (by decide) _),
        .more (skipBlank_cons (by decide) _) later⟩

/-- **The key of a member reads back** from its quotes. -/
theorem keyed_printString (key : String) (s : List Char) :
    Keyed .strict (printString key ++ ':' :: s) key s := by
  have keyed : Keyed .strict (printString key ++ ':' :: s) (String.ofList key.toList) s := by
    rw [printString_append]
    exact .mk (skipBlank_cons (by decide) _) (readChars_flatMap key.toList (':' :: s))
      (skipBlank_cons (by decide) s)
  rwa [String.ofList_toList] at keyed

/-- **Members read back** when their values do. -/
theorem readMembers_memberChars {members : List (String × Json)} (filled : members ≠ [])
    (each : ∀ m ∈ members, m.2.ReadsBack) {depth : Nat} (room : ∀ m ∈ members, m.2.depth ≤ depth)
    (fuel : Nat) (fuelled : 2 * (memberChars members).length ≤ fuel) (rest : List Char) :
    readMembers .strict depth fuel (memberChars members ++ '\x7d' :: rest) = some (members, rest) := by
  induction members generalizing fuel with
  | nil => exact absurd rfl filled
  | cons m members ih =>
    obtain ⟨k, value⟩ := m
    have first : value.ReadsBack := each (k, value) List.mem_cons_self
    have fits : value.depth ≤ depth := room (k, value) List.mem_cons_self
    cases members with
    | nil =>
      -- The quotes and the colon alone leave fuel for the step.
      simp only [memberChars, List.length_append, List.length_cons] at fuelled
      obtain ⟨fuel, rfl⟩ : ∃ k, fuel = k + 1 := ⟨fuel - 1, by omega⟩
      rw [memberChars, List.append_assoc, List.cons_append]
      exact readMembers_eq_some_iff.2 ⟨k, _, value, _, keyed_printString k _,
        first depth fuel ('\x7d' :: rest) fits (by omega) (.cons (by decide) rest),
        .last (skipBlank_cons (by decide) rest)⟩
    | cons next members =>
      rw [memberChars_cons] at fuelled ⊢
      simp only [List.length_append, List.length_cons] at fuelled
      obtain ⟨fuel, rfl⟩ : ∃ k, fuel = k + 1 := ⟨fuel - 1, by omega⟩
      have later := ih (List.cons_ne_nil _ _) (fun m mem => each m (List.mem_cons_of_mem _ mem))
        (fun m mem => room m (List.mem_cons_of_mem _ mem)) fuel (by omega)
      rw [List.append_assoc, List.cons_append, List.append_assoc, List.cons_append]
      exact readMembers_eq_some_iff.2 ⟨k, _, value, _, keyed_printString k _,
        first depth fuel _ fits (by omega) (.cons (by decide) _),
        .more (skipBlank_cons (by decide) _) later⟩

/-- Members open with the quote of a key. -/
theorem memberChars_opens (m : String × Json) (members : List (String × Json)) :
    ∃ cs, memberChars (m :: members) = '"' :: cs := by
  cases members <;> exact ⟨_, rfl⟩

/-- Blanks in front of a value make no difference. -/
theorem skipBlank_idem (s : List Char) : skipBlank (skipBlank s) = skipBlank s :=
  List.dropWhile_idempotent ..

theorem readItems_skipBlank (r : Rigour) (depth fuel : Nat) (s : List Char) :
    readItems r depth fuel (skipBlank s) = readItems r depth fuel s := by
  cases fuel with
  | zero => rfl
  | succ fuel =>
    cases fuel with
    | zero => rfl
    | succ fuel => rw [readItems, readValue, skipBlank_idem, readItems, readValue]

/-- The end of an array is no item. -/
theorem readItems_eq_none {r : Rigour} {s rest : List Char} (closes : skipBlank s = ']' :: rest)
    (depth fuel : Nat) : readItems r depth fuel s = none := by
  cases fuel with
  | zero => rfl
  | succ fuel =>
    cases fuel with
    | zero => rfl
    | succ fuel =>
      rw [readItems, readValue, closes]
      rfl

theorem readsBack_arr {items : List Json} (each : ∀ value ∈ items, value.ReadsBack) :
    (arr items).ReadsBack := by
  intro depth fuel rest room fuelled ends
  obtain ⟨depth, rfl⟩ : ∃ k, depth = k + 1 := ⟨depth - 1, by rw [Json.depth] at room; omega⟩
  have inside := itemsDepth_le_iff.1 (Nat.le_of_succ_le_succ room)
  simp only [chars, List.length_cons, List.length_append] at fuelled
  obtain ⟨fuel, rfl⟩ : ∃ k, fuel = k + 1 := ⟨fuel - 1, by omega⟩
  rw [chars, List.cons_append, List.append_assoc, List.singleton_append]
  cases items with
  | nil => rfl
  | cons value items =>
    have read := readItems_itemChars (List.cons_ne_nil _ _) each inside fuel (by omega) rest
    refine readValue_eq_some_iff.2 (.array (skipBlank_cons (by decide) _) (.filled ?_ ?_))
    · -- The reader looks for the end of the array first, but there is an item to be read.
      intro more closes
      rw [readItems_eq_none closes] at read
      cases read
    · rwa [readItems_skipBlank]

theorem readsBack_obj {members : List (String × Json)} (each : ∀ m ∈ members, m.2.ReadsBack) :
    (obj members).ReadsBack := by
  intro depth fuel rest room fuelled ends
  obtain ⟨depth, rfl⟩ : ∃ k, depth = k + 1 := ⟨depth - 1, by rw [Json.depth] at room; omega⟩
  have inside := membersDepth_le_iff.1 (Nat.le_of_succ_le_succ room)
  simp only [chars, List.length_cons, List.length_append] at fuelled
  obtain ⟨fuel, rfl⟩ : ∃ k, fuel = k + 1 := ⟨fuel - 1, by omega⟩
  rw [chars, List.cons_append, List.append_assoc, List.singleton_append]
  cases members with
  | nil => rfl
  | cons m members =>
    have read := readMembers_memberChars (List.cons_ne_nil _ _) each inside fuel (by omega) rest
    obtain ⟨cs, quoted⟩ := memberChars_opens m members
    rw [quoted, List.cons_append] at read ⊢
    have solid : skipBlank ('"' :: (cs ++ '\x7d' :: rest)) = '"' :: (cs ++ '\x7d' :: rest) :=
      skipBlank_cons (by decide) _
    refine readValue_eq_some_iff.2 (.object (skipBlank_cons (by decide) _) (.filled ?_ ?_))
    · intro more closes
      cases solid.symm.trans closes
    · rwa [solid]

/-- A value that is read in one step. -/
theorem readsBack_of_step {value : Json} (filled : 0 < value.chars.length)
    (step : ∀ depth fuel rest, Ends rest →
      readValue .strict depth (fuel + 1) (value.chars ++ rest) = some (value, rest)) :
    value.ReadsBack := by
  intro depth fuel rest _ fuelled ends
  obtain ⟨fuel, rfl⟩ : ∃ k, fuel = k + 1 := ⟨fuel - 1, by omega⟩
  exact step depth fuel rest ends

/-- A binary number reads back from its text, if the value is one. -/
def Legible : Json → Prop
  | .float x => (Json.float x).ReadsBack
  | _ => True

/-- **Values read back**: those whose whole numbers have 64 bits, if their binary numbers do. -/
theorem readsBack {value : Json} (fits : value.Everywhere Fits) (legible : value.Everywhere Legible) :
    value.ReadsBack := by
  induction value using induct with
  | node items ih =>
    have inFits := everywhereItems_iff.1 fits.2
    have inLegible := everywhereItems_iff.1 legible.2
    exact readsBack_arr fun value mem => ih value mem (inFits value mem) (inLegible value mem)
  | record members ih =>
    have inFits := everywhereMembers_iff.1 fits.2
    have inLegible := everywhereMembers_iff.1 legible.2
    exact readsBack_obj fun m mem => ih m mem (inFits m mem) (inLegible m mem)
  | leaf value isLeaf =>
    cases value with
    | arr | obj => exact isLeaf.elim
    | float => exact legible
    | null => exact readsBack_of_step (by decide) fun _ _ _ _ => rfl
    | bool b => cases b <;> exact readsBack_of_step (by decide) fun _ _ _ _ => rfl
    | int n =>
      refine readsBack_of_step ?_ fun depth fuel rest ends => readValue_printInt fits depth fuel ends
      show 0 < (printInt n).length
      unfold printInt
      split
      · exact Nat.succ_pos _
      · exact List.length_pos_iff.2 Nat.toDigits_ne_nil
    | str text =>
      refine readsBack_of_step (Nat.succ_pos _) fun depth fuel rest _ => ?_
      rw [chars, printString_append, readValue, skipBlank_cons (by decide)]
      simp only [readChars_flatMap, Option.map_some, String.ofList_toList]

/-! ## §4 — whole texts -/

/-- Read a whole text as a value whose arrays and objects nest no deeper than a limit. -/
def readWithin? (limit : Nat) (s : String) : Option Json :=
  match readFront limit s.toList with
  | some (value, rest) => if (skipBlank rest).isEmpty then some value.normalize else none
  | none => none

/-- Texts are read within the greatest depth. -/
theorem read?_eq_readWithin? (s : String) : read? s = readWithin? maxDepth s := rfl

/-- **A canonical value is what its text is read as**, within any limit that has room for it. -/
theorem readWithin?_text {value : Json} (canonical : value.Canonical) (legible : value.Everywhere Legible)
    {limit : Nat} (room : value.depth ≤ limit) : readWithin? limit value.text = some value := by
  have fuelled : 2 * value.chars.length ≤ fuelFor value.chars + 1 := by
    rw [fuelFor]
    omega
  have read := readsBack canonical.fits legible limit (fuelFor value.chars) [] room fuelled .nil
  rw [List.append_nil] at read
  rw [readWithin?, text, String.toList_ofList, readFront, read]
  exact congrArg some (normalize_eq_self canonical.ordered)

/-- The value is no binary number. -/
def Whole : Json → Prop
  | .float _ => False
  | _ => True

/-- Without binary numbers there is none that might not read back. -/
theorem legible_of_whole {value : Json} (whole : value.Everywhere Whole) : value.Everywhere Legible := by
  refine whole.imp fun value plain => ?_
  cases value with
  | float => exact plain.elim
  | null | bool | int | str | arr | obj => trivial

end Gateway.Json
