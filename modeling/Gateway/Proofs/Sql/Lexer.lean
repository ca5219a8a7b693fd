import Gateway.Sql.Template

/-!
# Reading the text of a statement

`lex` reads a text of SQL as the tokens that a database sees: words, quoted names and literals in which a
doubled quote stands for one, numerals, placeholders, and symbols. Words, numerals and operators are as
long as they can be. A character that no token starts with is refused, and so is a quote that is never
closed.

The reader knows nothing of templates. `lex_of_lexOne` reads a text token by token, and the lemmas about
`runOf` and `closeQuote` say where a token ends.
-/

namespace Gateway.Sql

/-! ## §1 — characters -/

/-- What a character can start. -/
inductive CharClass where
  | blank | letter | digit | dollar | doubleQuote | singleQuote | solo | colon | operator | other
deriving DecidableEq, Repr

namespace CharClass

/-- The class of a character that is neither a letter nor a digit. -/
def ofMark : Char → CharClass
  | ' ' => blank
  | '$' => dollar
  | '"' => doubleQuote
  | '\x27' => singleQuote
  | '(' | ')' | ',' | '.' => solo
  | ':' => colon
  | '=' | '<' | '>' | '@' | '&' | '*' => operator
  | _ => other

/-- The class of a character. -/
def of (c : Char) : CharClass :=
  if c.isAlpha || c == '_' then letter else if c.isDigit then digit else ofMark c

/-- The class continues a word. -/
def inWord : CharClass → Bool
  | letter | digit | dollar => true
  | _ => false

/-- The class continues a numeral. -/
def inNumeral : CharClass → Bool
  | digit => true
  | _ => false

/-- The class continues an operator. -/
def inOperator : CharClass → Bool
  | operator => true
  | _ => false

theorem of_isDigit {c : Char} (h : c.isDigit = true) : of c = digit := by
  have notAlpha : ¬ (c.isAlpha || c == '_') = true := by
    rw [isDigit_iff] at h
    rw [Bool.or_eq_true, isAlpha_iff, isUpper_iff, isLower_iff, beq_iff_eq]
    rintro ((upper | lower) | rfl)
    · omega
    · omega
    · exact absurd h (by decide)
  rw [of, if_neg notAlpha, if_pos h]

end CharClass

/-! ## §2 — tokens -/

/-- A token; `α` is what a placeholder stands for. -/
inductive Token (α : Type) where
  /-- A word that is not quoted. -/
  | word (text : String)
  /-- What is between double quotes. -/
  | name (text : String)
  /-- What is between single quotes. -/
  | literal (text : String)
  | numeral (n : Nat)
  | placeholder (value : α)
  /-- An operator or a punctuation mark. -/
  | symbol (text : String)
deriving DecidableEq, Repr

/-- The longest beginning of a text whose characters are of certain classes, and what is behind it. -/
def runOf (p : CharClass → Bool) (text : List Char) : List Char × List Char :=
  (text.takeWhile fun c => p (.of c), text.dropWhile fun c => p (.of c))

/-- Read up to the closing quote; a doubled quote stands for one. -/
def closeQuote (quote : Char) : List Char → Option (List Char × List Char)
  | [] => none
  | [c] => if c = quote then some ([], []) else none
  | c :: d :: rest =>
    if c ≠ quote then (closeQuote quote (d :: rest)).map fun (inner, left) => (c :: inner, left)
    else if d ≠ quote then some ([], d :: rest)
    else (closeQuote quote rest).map fun (inner, left) => (quote :: inner, left)

/-- The number that digits stand for. -/
def decimal (digits : List Char) : Nat :=
  Nat.ofDigitChars 10 digits 0

/-- Read a symbol of two characters behind its colon. -/
def lexColon : List Char → Option (Token Nat × List Char)
  | ':' :: left => some (.symbol "::", left)
  | '=' :: left => some (.symbol ":=", left)
  | _ => none

/-- Read one token from its first character and the text behind it. -/
def lexOne (c : Char) (rest : List Char) : Option (Token Nat × List Char) :=
  match CharClass.of c with
  | .letter =>
    let (more, left) := runOf CharClass.inWord rest
    some (.word (String.ofList (c :: more)), left)
  | .digit =>
    let (more, left) := runOf CharClass.inNumeral rest
    some (.numeral (decimal (c :: more)), left)
  | .dollar =>
    let (digits, left) := runOf CharClass.inNumeral rest
    if digits.isEmpty then none else some (.placeholder (decimal digits), left)
  | .doubleQuote =>
    (closeQuote c rest).map fun (inner, left) => (.name (String.ofList inner), left)
  | .singleQuote =>
    (closeQuote c rest).map fun (inner, left) => (.literal (String.ofList inner), left)
  | .solo => some (.symbol (String.ofList [c]), rest)
  | .colon => lexColon rest
  | .operator =>
    let (more, left) := runOf CharClass.inOperator rest
    some (.symbol (String.ofList (c :: more)), left)
  | .blank | .other => none

theorem length_runOf_le (p : CharClass → Bool) (text : List Char) :
    (runOf p text).2.length ≤ text.length :=
  (List.dropWhile_suffix _).length_le

theorem length_closeQuote_le {quote : Char} {text inner left : List Char}
    (h : closeQuote quote text = some (inner, left)) : left.length ≤ text.length := by
  induction text using closeQuote.induct quote generalizing inner with
  | case1 => simp [closeQuote] at h
  | case2 | case3 =>
    simp only [closeQuote] at h
    split at h <;> simp_all
  | case4 c d rest other ih =>
    rw [closeQuote, if_pos other] at h
    obtain ⟨⟨i, l⟩, found, same⟩ := Option.map_eq_some_iff.1 h
    obtain ⟨-, rfl⟩ := Prod.mk.inj same
    exact Nat.le_succ_of_le (ih found)
  | case5 c d rest same other =>
    rw [closeQuote, if_neg same, if_pos other] at h
    obtain ⟨-, rfl⟩ := Prod.mk.inj (Option.some.inj h)
    simp
  | case6 c d rest same doubled ih =>
    rw [closeQuote, if_neg same, if_neg doubled] at h
    obtain ⟨⟨i, l⟩, found, eq⟩ := Option.map_eq_some_iff.1 h
    obtain ⟨-, rfl⟩ := Prod.mk.inj eq
    have := ih found
    simp only [List.length_cons]
    omega

/-- What is left behind a token is no longer than what was. -/
theorem length_lexOne_le {c : Char} {rest left : List Char} {token : Token Nat}
    (h : lexOne c rest = some (token, left)) : left.length ≤ rest.length := by
  unfold lexOne at h
  split at h
  all_goals try simp only [Option.some.injEq, Prod.mk.injEq, reduceCtorEq] at h
  · exact h.2 ▸ length_runOf_le _ _
  · exact h.2 ▸ length_runOf_le _ _
  · split at h
    · simp at h
    · simp only [Option.some.injEq, Prod.mk.injEq] at h
      exact h.2 ▸ length_runOf_le _ _
  · obtain ⟨⟨i, l⟩, found, same⟩ := Option.map_eq_some_iff.1 h
    obtain ⟨-, rfl⟩ := Prod.mk.inj same
    exact length_closeQuote_le found
  · obtain ⟨⟨i, l⟩, found, same⟩ := Option.map_eq_some_iff.1 h
    obtain ⟨-, rfl⟩ := Prod.mk.inj same
    exact length_closeQuote_le found
  · exact h.2 ▸ Nat.le_refl _
  · unfold lexColon at h
    split at h
    · obtain ⟨-, rfl⟩ := Prod.mk.inj (Option.some.inj h)
      exact Nat.le_succ _
    · obtain ⟨-, rfl⟩ := Prod.mk.inj (Option.some.inj h)
      exact Nat.le_succ _
    · simp at h
  · exact h.2 ▸ length_runOf_le _ _

/-- A run ends where the text behind it starts with a character of another class. -/
theorem runOf_append {p : CharClass → Bool} {text rest : List Char}
    (all : ∀ c ∈ text, p (.of c) = true) (ends : ∀ c ∈ rest.head?, p (.of c) = false) :
    runOf p (text ++ rest) = (text, rest) := by
  have taken : (rest.takeWhile fun c => p (.of c)) = [] := by
    cases rest with
    | nil => rfl
    | cons c more => rw [List.takeWhile_cons, ends c rfl]; rfl
  have dropped : (rest.dropWhile fun c => p (.of c)) = rest := by
    cases rest with
    | nil => rfl
    | cons c more => rw [List.dropWhile_cons, ends c rfl]; rfl
  unfold runOf
  rw [List.takeWhile_append_of_pos all, List.dropWhile_append_of_pos all, taken, dropped,
    List.append_nil]

/-- What holds no quote is read up to the quote behind it, unless a second quote follows. -/
theorem closeQuote_append {quote : Char} {text rest : List Char} (none : quote ∉ text)
    (ends : ∀ c ∈ rest.head?, c ≠ quote) :
    closeQuote quote (text ++ quote :: rest) = some (text, rest) := by
  induction text with
  | nil =>
    cases rest with
    | nil => simp [closeQuote]
    | cons c more => simp [closeQuote, ends c rfl]
  | cons c more ih =>
    have other : c ≠ quote := fun same => none (same ▸ List.mem_cons_self ..)
    have later := ih fun mem => none (List.mem_cons_of_mem _ mem)
    -- There is a character behind this one in any case, be it the quote.
    obtain ⟨d, left, shape⟩ : ∃ d left, more ++ quote :: rest = d :: left := by
      cases more with
      | nil => exact ⟨quote, rest, rfl⟩
      | cons d left => exact ⟨d, left ++ quote :: rest, rfl⟩
    rw [shape] at later
    rw [List.cons_append, shape, closeQuote, if_pos other, later]
    rfl

/-- **The tokens of a text**; none when it cannot be read. -/
def lex : List Char → Option (List (Token Nat))
  | [] => some []
  | c :: rest =>
    if CharClass.of c = .blank then lex rest
    else
      match found : lexOne c rest with
      | none => none
      | some (token, left) =>
        have := length_lexOne_le found
        (lex left).map (token :: ·)
termination_by text => text.length

/-- A text that starts with a token is read by reading what is behind it. -/
theorem lex_of_lexOne {c : Char} {rest left : List Char} {token : Token Nat}
    (h : lexOne c rest = some (token, left)) : lex (c :: rest) = (lex left).map (token :: ·) := by
  have notBlank : CharClass.of c ≠ .blank := by
    intro blank
    simp [lexOne, blank] at h
  rw [lex, if_neg notBlank]
  split
  next none => simp [h] at none
  next found =>
    rw [h] at found
    obtain ⟨rfl, rfl⟩ := Prod.mk.inj (Option.some.inj found)
    rfl

end Gateway.Sql
