/-!
# Cutting a text at a separator

Ways to take a text apart at a character: `cut` at its first occurrence, `cutLast` at its last,
`fields` at every one. They lose nothing but the separator, and the part before a cut never holds it;
`cut_eq_some_iff` and `cutLast_eq_some_iff` say the first two exactly, and the third is the splitting of a
list (`fieldsBy_eq_splitOnP`).
-/

namespace Gateway.Text

/-- The text before and after the first `sep`, or nothing when there is none. -/
def cut (sep : Char) : List Char → Option (List Char × List Char)
  | [] => none
  | c :: rest =>
    if c = sep then some ([], rest)
    else (cut sep rest).map fun (before, after) => (c :: before, after)

/-- The text before and after the last `sep`, or nothing when there is none. -/
def cutLast (sep : Char) (s : List Char) : Option (List Char × List Char) :=
  (cut sep s.reverse).map fun (after, before) => (before.reverse, after.reverse)

/-- The pieces between the separators, in order; a text without a separator is its only piece. -/
def fieldsBy (isSep : Char → Bool) : List Char → List (List Char)
  | [] => [[]]
  | c :: rest =>
    if isSep c then [] :: fieldsBy isSep rest
    else
      match fieldsBy isSep rest with
      | [] => [[c]]
      | piece :: pieces => (c :: piece) :: pieces

/-- The pieces between the occurrences of one character. -/
def fields (sep : Char) (s : List Char) : List (List Char) :=
  fieldsBy (· == sep) s

/-- The text without its last character, when that is `c`. -/
def dropLast? (c : Char) (s : List Char) : Option (List Char) :=
  if s.getLast? = some c then some s.dropLast else none

/-- The text behind `front`, when it starts with that. -/
def dropFront? : List Char → List Char → Option (List Char)
  | [], s => some s
  | _ :: _, [] => none
  | f :: front, c :: rest => if f = c then dropFront? front rest else none

/-- The text between a first `opening` and a last `closing` character, when both are there. -/
def between? (opening closing : Char) : List Char → Option (List Char)
  | [] => none
  | c :: rest => if c = opening then dropLast? closing rest else none

/-- The text without the occurrences of `c` at either end. -/
def strip (c : Char) (s : List Char) : List Char :=
  ((s.dropWhile (· == c)).reverse.dropWhile (· == c)).reverse

/-- The upper-case ASCII letters become lower-case; every other character stays. -/
def lower (s : List Char) : List Char :=
  s.map Char.toLower

/-- The lower-case ASCII letters become upper-case; every other character stays. -/
def upper (s : List Char) : List Char :=
  s.map Char.toUpper

/-! ## Laws of the cut -/

/-- **A cut is at the first separator**: it succeeds exactly when the text is a part without the
separator, the separator, and the rest. -/
theorem cut_eq_some_iff {sep : Char} {s before after : List Char} :
    cut sep s = some (before, after) ↔ s = before ++ sep :: after ∧ sep ∉ before := by
  induction s generalizing before with
  | nil => simp [cut]
  | cons c rest ih =>
    by_cases h : c = sep
    · subst h
      cases before with
      | nil => simp [cut]
      | cons b bs =>
        simp only [cut, if_true, Option.some.injEq, Prod.mk.injEq, List.cons_append,
          List.cons.injEq, List.mem_cons, not_or]
        constructor
        · rintro ⟨h, -⟩; simp at h
        · rintro ⟨⟨h, -⟩, h', -⟩; exact absurd h h'
    · cases before with
      | nil => simp [cut, h]
      | cons b bs =>
        have step : cut sep (c :: rest) = some (b :: bs, after) ↔
            c = b ∧ cut sep rest = some (bs, after) := by
          simp only [cut, h, if_false, Option.map_eq_some_iff]
          constructor
          · rintro ⟨⟨x, y⟩, hx, he⟩
            simp only [Prod.mk.injEq, List.cons.injEq] at he
            obtain ⟨⟨rfl, rfl⟩, rfl⟩ := he
            exact ⟨rfl, hx⟩
          · rintro ⟨rfl, hx⟩
            exact ⟨(bs, after), hx, rfl⟩
        rw [step, ih]
        simp only [List.cons_append, List.cons.injEq, List.mem_cons, not_or]
        constructor
        · rintro ⟨rfl, rfl, hm⟩
          exact ⟨⟨rfl, rfl⟩, fun e => h e.symm, hm⟩
        · rintro ⟨⟨rfl, rfl⟩, -, hm⟩
          exact ⟨rfl, rfl, hm⟩

/-- **A last cut is at the last separator.** -/
theorem cutLast_eq_some_iff {sep : Char} {s before after : List Char} :
    cutLast sep s = some (before, after) ↔ s = before ++ sep :: after ∧ sep ∉ after := by
  have reversed : s = before ++ sep :: after ↔ s.reverse = after.reverse ++ sep :: before.reverse := by
    rw [← List.reverse_inj]
    simp
  have absent : sep ∉ after ↔ sep ∉ after.reverse := not_congr List.mem_reverse.symm
  rw [cutLast, Option.map_eq_some_iff, reversed, absent, ← cut_eq_some_iff]
  constructor
  · rintro ⟨⟨a, b⟩, found, same⟩
    obtain ⟨rfl, rfl⟩ := Prod.mk.inj same
    rwa [List.reverse_reverse, List.reverse_reverse]
  · intro found
    exact ⟨_, found, by simp⟩

/-- There is no cut exactly when there is no separator. -/
theorem cut_eq_none_iff {sep : Char} {s : List Char} : cut sep s = none ↔ sep ∉ s := by
  induction s with
  | nil => simp [cut]
  | cons c rest ih =>
    by_cases h : c = sep
    · simp [cut, h]
    · simp [cut, h, ih, Ne.symm h]

/-- A text has one cut. -/
theorem cut_unique {sep : Char} {before before' after after' : List Char} (first : sep ∉ before)
    (second : sep ∉ before') (same : before ++ sep :: after = before' ++ sep :: after') :
    before = before' ∧ after = after' := by
  have cuts : cut sep (before ++ sep :: after) = some (before', after') := by
    rw [same]
    exact cut_eq_some_iff.2 ⟨rfl, second⟩
  rw [cut_eq_some_iff.2 ⟨rfl, first⟩] at cuts
  exact Prod.mk.inj (Option.some.inj cuts)

/-- A text is its stripped part and its last character. -/
theorem dropLast?_eq_some_iff {c : Char} {s t : List Char} :
    dropLast? c s = some t ↔ s = t ++ [c] := by
  unfold dropLast?
  constructor
  · intro h
    split at h
    next hl =>
      obtain ⟨ne, hl⟩ := List.getLast?_eq_some_iff.1 hl
      simp_all
    next => simp at h
  · rintro rfl
    simp

/-- A text is the front that is dropped and what is left. -/
theorem dropFront?_eq_some_iff {front s t : List Char} :
    dropFront? front s = some t ↔ s = front ++ t := by
  induction front generalizing s with
  | nil => simp [dropFront?]
  | cons f front ih =>
    cases s with
    | nil => simp [dropFront?]
    | cons c rest =>
      by_cases h : f = c
      · simp [dropFront?, h, ih]
      · simp [dropFront?, h, Ne.symm h]

/-- A bracketed text is the opening character, the text between, and the closing character. -/
theorem between?_eq_some_iff {opening closing : Char} {s t : List Char} :
    between? opening closing s = some t ↔ s = opening :: (t ++ [closing]) := by
  cases s with
  | nil => simp [between?]
  | cons c rest =>
    by_cases h : c = opening
    · simp [between?, h, dropLast?_eq_some_iff]
    · simp [between?, h]

/-- The pieces are those of the list as the library splits it. -/
theorem fieldsBy_eq_splitOnP (isSep : Char → Bool) (s : List Char) :
    fieldsBy isSep s = s.splitOnP isSep := by
  induction s with
  | nil => rfl
  | cons c rest ih =>
    rw [List.splitOnP_cons_eq_if_modifyHead, fieldsBy, ih]
    split
    · rfl
    · cases pieces : rest.splitOnP isSep with
      | nil => exact absurd pieces (List.splitOnP_ne_nil isSep rest)
      | cons piece more => rfl

theorem fields_eq_splitOn (sep : Char) (s : List Char) : fields sep s = s.splitOn sep :=
  fieldsBy_eq_splitOnP (· == sep) s

/-- There is always a first piece. -/
theorem fieldsBy_ne_nil (isSep : Char → Bool) (s : List Char) : fieldsBy isSep s ≠ [] := by
  rw [fieldsBy_eq_splitOnP]
  exact List.splitOnP_ne_nil isSep s

/-- **Cutting at a separator undoes joining** items that do not hold it. -/
theorem fields_intercalate {sep : Char} {items : List (List Char)} (filled : items ≠ [])
    (none : ∀ item ∈ items, sep ∉ item) : fields sep ([sep].intercalate items) = items := by
  rw [fields_eq_splitOn, List.splitOn_intercalate sep none filled]

/-- Nothing is stripped where there is nothing to strip. -/
theorem strip_of_notMem {c : Char} {text : List Char} (none : c ∉ text) : strip c text = text := by
  have keeps (s : List Char) (h : c ∉ s) : s.dropWhile (· == c) = s := by
    cases s with
    | nil => rfl
    | cons d rest =>
      have other : d ≠ c := fun same => h (same ▸ List.mem_cons_self)
      rw [List.dropWhile_cons_of_neg (by simpa using other)]
  rw [strip, keeps text none, keeps _ (by simpa using none), List.reverse_reverse]

end Gateway.Text
