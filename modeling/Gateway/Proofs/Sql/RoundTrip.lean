import Gateway.Proofs.Sql.Dialect

/-!
# Filters are read back as they were written

Reading undoes writing, part by part: the operator and its language (`Predicate.readLanguage_token`), a
predicate (`Predicate.predicate_operator`), a condition (`Condition.read_operation`), and by recursion on
the filter the items of a group. `Filter.read_spelled` is the whole: a group read back from the parameter
it was written as is the group itself, at every depth.

What an item begins with is told by its first word and the mark behind it (`IsWord.unique`). Behind a
column stands a point, behind a connective a bracket, so a column may be called `not`, `and` or `or`.
-/

namespace Gateway.Sql

open Gateway.Text

/-! ## §1 — words and what follows them -/

/-- A text without a point or an opening bracket. -/
def IsWord (text : List Char) : Prop :=
  ∀ c ∈ text, c ≠ '.' ∧ c ≠ '('

theorem isWord_of_check {text : List Char} (h : (text.all fun c => c != '.' && c != '(') = true) :
    IsWord text := by
  intro c mem
  have here := List.all_eq_true.1 h c mem
  rwa [Bool.and_eq_true, bne_iff_ne, bne_iff_ne] at here

/-- Where a word ends, with which mark and what follows is seen from the text alone. -/
theorem IsWord.unique {v w : List Char} (first : IsWord v) (second : IsWord w) {m n : Char}
    (hm : m = '.' ∨ m = '(') (hn : n = '.' ∨ n = '(') {rest more : List Char}
    (same : v ++ m :: rest = w ++ n :: more) : v = w ∧ m = n ∧ rest = more := by
  induction v generalizing w with
  | nil =>
    cases w with
    | nil =>
      obtain ⟨rfl, rfl⟩ := List.cons.inj same
      exact ⟨rfl, rfl, rfl⟩
    | cons d w =>
      obtain ⟨rfl, -⟩ := List.cons.inj same
      obtain ⟨point, opening⟩ := second m List.mem_cons_self
      exact absurd hm (not_or.2 ⟨point, opening⟩)
  | cons c v ih =>
    cases w with
    | nil =>
      obtain ⟨rfl, -⟩ := List.cons.inj same
      obtain ⟨point, opening⟩ := first c List.mem_cons_self
      exact absurd hn (not_or.2 ⟨point, opening⟩)
    | cons d w =>
      obtain ⟨rfl, behind⟩ := List.cons.inj same
      obtain ⟨rfl, marks⟩ := ih (fun e mem => first e (List.mem_cons_of_mem _ mem))
        (fun e mem => second e (List.mem_cons_of_mem _ mem)) behind
      exact ⟨rfl, marks⟩

theorem Identifier.isWord (name : Identifier) : IsWord name.text.toList := by
  intro c mem
  have part := isNamePart_of_mem mem
  constructor
  · rintro rfl
    exact absurd part (by decide)
  · rintro rfl
    exact absurd part (by decide)

theorem isWord_not : IsWord "not".toList :=
  isWord_of_check (by decide)

theorem Connective.isWord (joint : Connective) : IsWord joint.word := by
  cases joint <;> exact isWord_of_check (by decide)

/-- A name of an operator is a plain word that opens neither a group nor a negation, and stands for one
operator. -/
theorem Operator.tokens_check : ∀ entry ∈ Operator.tokens,
    (entry.1.toList.all fun c => isPlainChar c && c != '.') = true ∧
      entry.1.toList ∉ ["not".toList, "and".toList, "or".toList] ∧
      Operator.tokens.lookup entry.1 = some entry.2 := by
  decide +kernel

/-- A group is opened by its connective and a bracket. -/
theorem exists_of_groupStart {text group : List Char} {joint : Connective}
    (h : groupStart text = some (joint, group)) :
    ∃ rest, text = joint.word ++ '(' :: rest ∧ group = '(' :: rest := by
  have opened : ∀ {word : String} {group : List Char}, bracketAfter? word text = some group →
      ∃ rest, text = word.toList ++ '(' :: rest ∧ group = '(' :: rest := by
    intro word group found
    unfold bracketAfter? at found
    split at found
    next rest front => exact ⟨rest, dropFront?_eq_some_iff.1 front, (Option.some.inj found).symm⟩
    · simp at found
  unfold groupStart at h
  split at h
  next found =>
    obtain ⟨rfl, rfl⟩ := Prod.mk.inj (Option.some.inj h)
    exact opened found
  · obtain ⟨group, found, same⟩ := Option.map_eq_some_iff.1 h
    obtain ⟨rfl, rfl⟩ := Prod.mk.inj same
    exact opened found

/-- A word with a point behind it opens no group. -/
theorem groupStart_point {word : List Char} (h : IsWord word) (rest : List Char) :
    groupStart (word ++ '.' :: rest) = none := by
  cases start : groupStart (word ++ '.' :: rest) with
  | none => rfl
  | some opened =>
    obtain ⟨joint, group⟩ := opened
    obtain ⟨more, same, -⟩ := exists_of_groupStart start
    exact absurd (h.unique joint.isWord (.inl rfl) (.inr rfl) same).2.1 (by decide)

/-- A word that is no connective opens no group. -/
theorem groupStart_bracket {word : List Char} (h : IsWord word)
    (other : ∀ joint : Connective, word ≠ joint.word) (rest : List Char) :
    groupStart (word ++ '(' :: rest) = none := by
  cases start : groupStart (word ++ '(' :: rest) with
  | none => rfl
  | some opened =>
    obtain ⟨joint, group⟩ := opened
    obtain ⟨more, same, -⟩ := exists_of_groupStart start
    exact absurd (h.unique joint.isWord (.inr rfl) (.inr rfl) same).1 (other joint)

theorem groupStart_word (joint : Connective) (rest : List Char) :
    groupStart (joint.word ++ '(' :: rest) = some (joint, '(' :: rest) := by
  cases joint <;> rfl

/-- A negation is read off only where it was written. -/
theorem readNot_notMark (negated : Bool) {word : List Char} (h : IsWord word) {mark : Char}
    (hm : mark = '.' ∨ mark = '(') (other : word ≠ "not".toList ∨ mark ≠ '.') (rest : List Char) :
    readNot (notMark negated ++ (word ++ mark :: rest)) = (negated, word ++ mark :: rest) := by
  cases negated with
  | true =>
    have front : dropFront? "not.".toList (notMark true ++ (word ++ mark :: rest)) =
        some (word ++ mark :: rest) := dropFront?_eq_some_iff.2 rfl
    rw [readNot, front]
  | false =>
    have front : dropFront? "not.".toList (word ++ mark :: rest) = none := by
      cases found : dropFront? "not.".toList (word ++ mark :: rest) with
      | none => rfl
      | some left =>
        have same : word ++ mark :: rest = "not".toList ++ '.' :: left :=
          (dropFront?_eq_some_iff.1 found).trans rfl
        obtain ⟨rfl, rfl, -⟩ := h.unique isWord_not hm (.inl rfl) same
        exact absurd other (by simp)
    rw [notMark, if_neg Bool.false_ne_true, List.nil_append, readNot, front]

/-! ## §2 — conditions -/

namespace Spelling

variable (s : Spelling) (op : Operator)

theorem verbatim : Verbatim (s.name op).toList := by
  have checked := (Operator.tokens_check _ (s.named op)).1
  refine Verbatim.of_plain (List.all_eq_true.2 fun c mem => ?_)
  exact (Bool.and_eq_true_iff.1 (List.all_eq_true.1 checked c mem)).1

theorem isWord : IsWord (s.name op).toList := by
  have checked := (Operator.tokens_check _ (s.named op)).1
  refine isWord_of_check (List.all_eq_true.2 fun c mem => ?_)
  have here := List.all_eq_true.1 checked c mem
  rw [Bool.and_eq_true] at here
  rw [here.2, Bool.true_and, bne_iff_ne]
  rintro rfl
  exact absurd here.1 (by decide)

theorem reserved : (s.name op).toList ∉ ["not".toList, "and".toList, "or".toList] :=
  (Operator.tokens_check _ (s.named op)).2.1

theorem read : Operator.read (s.name op).toList = .ok op := by
  have found : Operator.tokens.lookup (s.name op) = some op :=
    (Operator.tokens_check _ (s.named op)).2.2
  rw [Operator.read, String.ofList_toList, found]

theorem ne_word (joint : Connective) : (s.name op).toList ≠ joint.word := by
  have reserved := s.reserved op
  intro same
  rw [same] at reserved
  cases joint <;> exact absurd reserved (by decide)

end Spelling

variable {s : Spelling}

namespace Predicate

variable (p : Predicate)

/-- The operator and what follows it: its name is a word, and a point or a bracket is behind it. -/
theorem exists_token_eq (s : Spelling) (rest : List Char) : ∃ mark more,
    p.token s ++ '.' :: rest = (s.name p.operator).toList ++ mark :: more ∧
      (mark = '.' ∨ mark = '(') := by
  unfold token
  cases p.language? with
  | none => exact ⟨'.', rest, by rw [Option.elim, List.append_nil], .inl rfl⟩
  | some l => exact ⟨'(', _, List.append_assoc _ _ _, .inr rfl⟩

theorem verbatim_token (s : Spelling) : Verbatim (p.token s) := by
  refine (s.verbatim p.operator).append ?_
  cases p.language? with
  | none => exact Verbatim.of_plain rfl
  | some l =>
    refine Verbatim.bracketList fun part mem => ?_
    obtain rfl := List.mem_singleton.1 mem
    exact (Verbatim.name l).onePiece

theorem verbatim_valueText (h : p.Writable) : Verbatim p.valueText := by
  cases p with
  | compare op value => exact h
  | search mode language query => exact h
  | is value => cases value <;> exact Verbatim.of_plain (by decide)
  | oneOf items =>
    refine Verbatim.bracketList fun part mem => ?_
    obtain ⟨item, -, rfl⟩ := List.mem_map.1 mem
    exact onePiece_quoteItem item

theorem point_notMem_token (s : Spelling) : '.' ∉ p.token s := by
  have named : '.' ∉ (s.name p.operator).toList := fun mem => (s.isWord _ _ mem).1 rfl
  unfold token
  cases p.language? with
  | none => simpa using named
  | some l =>
    have language : '.' ∉ l.text.toList := fun mem => (l.isWord _ mem).1 rfl
    simp [bracketList, named, language]

theorem readLanguage_token (s : Spelling) (column : Identifier) :
    readLanguage column (p.token s) = .ok ((s.name p.operator).toList, p.language?) := by
  have word : '(' ∉ (s.name p.operator).toList := fun mem => (s.isWord _ _ mem).2 rfl
  unfold token
  cases p.language? with
  | none =>
    rw [Option.elim, List.append_nil, readLanguage, cut_eq_none_iff.2 word]
  | some l =>
    have opened : cut '(' ((s.name p.operator).toList ++ bracketList [l.text.toList]) =
        some ((s.name p.operator).toList, l.text.toList ++ [')']) := by
      rw [bracketList, List.intercalate_singleton]
      exact cut_eq_some_iff.2 ⟨rfl, word⟩
    have closed : dropLast? ')' (l.text.toList ++ [')']) = some l.text.toList :=
      dropLast?_eq_some_iff.2 rfl
    rw [Option.elim, readLanguage, opened]
    simp only [closed, Identifier.read, Identifier.read?_text, Except.map]

theorem takesLanguage (h : p.language?.isSome = true) : p.operator.takesLanguage = true := by
  cases p with
  | search => rfl
  | _ => cases h

/-- **A predicate is read back from its operator, language and value.** -/
theorem predicate_operator (column : Identifier) :
    p.operator.predicate column p.language? p.valueText = .ok p := by
  cases p with
  | compare op value => exact congrArg (Except.ok <| compare op ·) String.ofList_toList
  | search mode language query =>
    exact congrArg (Except.ok <| search mode language ·) String.ofList_toList
  | is value => cases value <;> rfl
  | oneOf items =>
    show (readList column (bracketList (items.map quoteItem))).map oneOf = _
    rw [readList_quoteItems]
    rfl

end Predicate

namespace Condition

variable (c : Condition)

theorem groupStart_operation (s : Spelling) : groupStart (c.operation s) = none := by
  obtain ⟨mark, more, shape, marks⟩ := c.predicate.exists_token_eq s c.predicate.valueText
  unfold operation
  cases c.negated with
  | true => exact groupStart_point isWord_not _
  | false =>
    rw [notMark, if_neg Bool.false_ne_true, List.nil_append, shape]
    rcases marks with rfl | rfl
    · exact groupStart_point (s.isWord _) more
    · exact groupStart_bracket (s.isWord _) (s.ne_word _) more

theorem readNot_operation (s : Spelling) : readNot (c.operation s) =
    (c.negated, c.predicate.token s ++ '.' :: c.predicate.valueText) := by
  obtain ⟨mark, more, shape, marks⟩ := c.predicate.exists_token_eq s c.predicate.valueText
  have other : (s.name c.predicate.operator).toList ≠ "not".toList := by
    have reserved := s.reserved c.predicate.operator
    intro same
    rw [same] at reserved
    exact absurd reserved (by decide)
  rw [operation, shape]
  exact readNot_notMark c.negated (s.isWord _) marks (.inl other) more

/-- **A condition is read back from its column and its operation.** -/
theorem read_operation (s : Spelling) :
    Condition.read c.column.text.toList (c.operation s) = .ok c := by
  have parts : cut '.' (c.predicate.token s ++ '.' :: c.predicate.valueText) =
      some (c.predicate.token s, c.predicate.valueText) :=
    cut_eq_some_iff.2 ⟨rfl, c.predicate.point_notMem_token s⟩
  have allowed : (c.predicate.language?.isSome && !c.predicate.operator.takesLanguage) = false := by
    cases some : c.predicate.language?.isSome with
    | false => rfl
    | true => rw [c.predicate.takesLanguage some]; rfl
  rw [Condition.read, Identifier.read, Identifier.read?_text, c.readNot_operation s]
  show (readLanguage c.column _ >>= _) = _
  simp only [parts, c.predicate.readLanguage_token s, s.read, bind, Except.bind]
  rw [allowed, if_neg Bool.false_ne_true, c.predicate.predicate_operator]
  rfl

theorem isItem_spelled (s : Spelling) (h : c.predicate.Writable) :
    IsItem ((Filter.condition c).spelled s) := by
  have operation : Verbatim (c.operation s) :=
    (Verbatim.notMark c.negated).append ((c.predicate.verbatim_token s).append
      (Verbatim.point.append (c.predicate.verbatim_valueText h)))
  exact (IsItem.name c.column).append (Verbatim.point.append operation)

/-- A condition is not taken for a group, even when its column is called `not`. -/
theorem groupStart_spelled (s : Spelling) :
    groupStart (readNot ((Filter.condition c).spelled s)).2 = none := by
  rw [Filter.spelled, readNot]
  split
  next rest front =>
    have same : c.column.text.toList ++ '.' :: c.operation s = "not".toList ++ '.' :: rest :=
      (dropFront?_eq_some_iff.1 front).trans rfl
    obtain ⟨-, -, rfl⟩ := c.column.isWord.unique isWord_not (.inl rfl) (.inl rfl) same
    exact c.groupStart_operation s
  · exact groupStart_point c.column.isWord _

theorem readItem_spelled (s : Spelling) :
    readItem ((Filter.condition c).spelled s) = .ok (.condition c) := by
  have parts : cut '.' (c.column.text.toList ++ '.' :: c.operation s) =
      some (c.column.text.toList, c.operation s) :=
    cut_eq_some_iff.2 ⟨rfl, fun mem => (c.column.isWord _ mem).1 rfl⟩
  rw [readItem, c.groupStart_spelled s]
  show readItemCondition (c.column.text.toList ++ '.' :: c.operation s) = _
  rw [readItemCondition, parts]
  exact congrArg (Except.map Filter.condition) (c.read_operation s)

end Condition

/-! ## §3 — groups -/

namespace Filter

mutual

/-- A written filter can be an item of a group. -/
theorem isItem_spelled (s : Spelling) : ∀ f : Filter,
    (∀ c ∈ f.conditions, c.predicate.Writable) → IsItem (f.spelled s)
  | condition c, writable => c.isItem_spelled s (writable c (List.mem_singleton.2 rfl))
  | group joint negated members, writable => by
    have parts : Verbatim (bracketList (spelledAll s members)) :=
      Verbatim.bracketList fun part mem => (isItem_spelledAll s members writable part mem).onePiece
    have word : Verbatim joint.word := by
      cases joint <;> exact Verbatim.of_plain (by decide)
    refine ⟨(Verbatim.notMark negated).append (word.append parts), ?_⟩
    cases negated <;> cases joint <;> exact ⟨_, _, rfl, by decide⟩

theorem isItem_spelledAll (s : Spelling) : ∀ members : List Filter,
    (∀ c ∈ allConditions members, c.predicate.Writable) →
      ∀ part ∈ spelledAll s members, IsItem part
  | [], _ => fun _ mem => absurd mem List.not_mem_nil
  | f :: rest, writable => by
    intro part mem
    rcases List.mem_cons.1 mem with rfl | mem
    · exact isItem_spelled s f fun c mem => writable c (List.mem_append_left _ mem)
    · exact isItem_spelledAll s rest (fun c mem => writable c (List.mem_append_right _ mem)) part mem

end

/-- A group is read back from its bracketed items when each of them is. -/
theorem readGroup_bracketList (s : Spelling) (joint : Connective) (negated : Bool)
    {members : List Filter} (filled : members ≠ [])
    (writable : ∀ c ∈ allConditions members, c.predicate.Writable)
    (each : (spelledAll s members).mapM readItem = .ok members) :
    readGroup joint negated (bracketList (spelledAll s members)) =
      .ok (group joint negated members) := by
  have some : spelledAll s members ≠ [] := by
    rw [spelledAll_eq_map]
    exact fun none => filled (List.map_eq_nil_iff.1 none)
  rw [readGroup_eq, groupItems_bracketList some (isItem_spelledAll s members writable)]
  show ((spelledAll s members).mapM readItem).map (group joint negated) = _
  rw [each]
  rfl

mutual

/-- **A filter is read back from the item it was written as.** -/
theorem readItem_spelled (s : Spelling) : ∀ f : Filter, f.Filled →
    (∀ c ∈ f.conditions, c.predicate.Writable) → readItem (f.spelled s) = .ok f
  | condition c, _, _ => c.readItem_spelled s
  | group joint negated members, filled, writable => by
    have each := mapM_readItem_spelledAll s members filled.2 writable
    have marked : readNot (notMark negated ++ (joint.word ++ bracketList (spelledAll s members))) =
        (negated, joint.word ++ bracketList (spelledAll s members)) :=
      readNot_notMark negated joint.isWord (.inr rfl) (.inr (by decide)) _
    rw [spelled, readItem, marked, bracketList, groupStart_word]
    exact readGroup_bracketList s joint negated filled.1 writable each

theorem mapM_readItem_spelledAll (s : Spelling) : ∀ members : List Filter, AllFilled members →
    (∀ c ∈ allConditions members, c.predicate.Writable) →
      (spelledAll s members).mapM readItem = .ok members
  | [], _, _ => rfl
  | f :: rest, filled, writable => by
    have first := readItem_spelled s f filled.1 fun c mem => writable c (List.mem_append_left _ mem)
    have later := mapM_readItem_spelledAll s rest filled.2
      fun c mem => writable c (List.mem_append_right _ mem)
    rw [spelledAll, List.mapM_cons, first, later]
    rfl

end

/-- The key of the parameter that holds a group. -/
def groupKey (joint : Connective) (negated : Bool) : String :=
  String.ofList (notMark negated ++ joint.word)

/-- The value of the parameter that holds a group. -/
def groupValue (s : Spelling) (members : List Filter) : String :=
  String.ofList (bracketList (spelledAll s members))

/-- **A group that is written as a parameter is read back as it was**, whatever names the operators are
given. Every group has to have a member, and the values that are not quoted have to stand at the end of an
item; the items of a list may hold anything. -/
theorem read_spelled (s : Spelling) (joint : Connective) (negated : Bool) (members : List Filter)
    (filled : (group joint negated members).Filled)
    (writable : ∀ c ∈ (group joint negated members).conditions, c.predicate.Writable) :
    Filter.read (groupKey joint negated) (groupValue s members) =
      .ok (group joint negated members) := by
  have each := mapM_readItem_spelledAll s members filled.2 writable
  have read := readGroup_bracketList s joint negated filled.1 writable each
  have value : (groupValue s members).toList = bracketList (spelledAll s members) :=
    String.toList_ofList
  rw [← value] at read
  rw [← read]
  cases negated <;> cases joint <;> rfl

/-- Members with columns that are called like the words of the dialect, and with items and values full of
its marks. -/
def trickyMembers : List Filter :=
  [.condition ⟨⟨"not", by decide⟩, true, .compare .like " *(a,b)\",\".c"⟩,
    .group .or true
      [.condition ⟨⟨"and", by decide⟩, false, .oneOf ["x,y", "(\"", "\\", "", " "]⟩,
        .group .and false
          [.condition ⟨⟨"or", by decide⟩, true,
              .search .plain (some ⟨"not", by decide⟩) "not.and(or)"⟩,
            .condition ⟨⟨"not", by decide⟩, false, .is .null⟩]],
    .condition ⟨⟨"or", by decide⟩, false, .oneOf []⟩]

theorem read_spelled_tricky :
    (group .and true trickyMembers).Filled ∧
      (∀ c ∈ (group .and true trickyMembers).conditions, c.predicate.Writable) ∧
      groupValue .usual trickyMembers =
        "(not.not.like. *(a,b)\",\".c,not.or(and.in.(\"x,y\",\"(\\\"\",\"\\\\\",\"\",\" \")," ++
          "and(or.not.plfts(not).not.and(or),not.is.null)),or.in.())" ∧
      Filter.read (groupKey .and true) (groupValue .usual trickyMembers) =
        .ok (group .and true trickyMembers) := by
  have filled : (group .and true trickyMembers).Filled := by
    simp [trickyMembers, Filled, AllFilled]
  have pattern : Verbatim " *(a,b)\",\".c".toList :=
    ⟨onePiece_iff.2 (by decide +kernel), by decide +kernel⟩
  have query : Verbatim "not.and(or)".toList :=
    ⟨onePiece_iff.2 (by decide +kernel), by decide +kernel⟩
  have writable : ∀ c ∈ (group .and true trickyMembers).conditions, c.predicate.Writable := by
    simpa [trickyMembers, conditions, allConditions, Predicate.Writable] using ⟨pattern, query⟩
  exact ⟨filled, writable, by decide +kernel,
    read_spelled .usual .and true trickyMembers filled writable⟩

end Filter

end Gateway.Sql
