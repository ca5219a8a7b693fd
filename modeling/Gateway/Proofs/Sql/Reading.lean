import Gateway.Proofs.Sql.Lexer
import Mathlib.Data.List.Chain

/-!
# Templates are read back

The text of a template determines the template, all but the blanks. `Piece.text` and `Piece.token?` are
the two faces of a piece, and `lex_text` says that the reader turns one into the other, unless the text
behind the piece runs into it. In a `Legible` template no piece runs into the next, and `read_sql` says
what a database reads from it: its tokens, with each placeholder standing for the value that was bound
in its place.

Blanks, brackets and commas run into nothing, so templates that are put together with them are legible
when their parts are (`legible_append`).
-/

namespace Gateway.Sql

/-! ## §1 — pieces as text and as tokens -/

/-- The class of character that a symbol starts with. -/
def Symbol.opens : Symbol → CharClass
  | opening | closing | comma | dot => .solo
  | assign | cast => .colon
  | emptyArray => .singleQuote
  | _ => .operator

namespace Piece

/-- How a piece is written where the next placeholder has this number. -/
def text (next : Nat) : Piece → List Char
  | space => [' ']
  | word w => w.text.toList
  | symbol s => s.text.toList
  | name n => n.quoted.toList
  | literal n => n.literal.toList
  | numeral n => Nat.toDigits 10 n
  | bound _ => '$' :: Nat.toDigits 10 next

/-- What a piece is read as, a blank as nothing. -/
def token? {α : Type} (shown : Param → α) : Piece → Option (Token α)
  | space => none
  | word w => some (.word w.text)
  | symbol .emptyArray => some (.literal "[]")
  | symbol s => some (.symbol s.text)
  | name n => some (.name n.text)
  | literal n => some (.literal n.text)
  | numeral n => some (.numeral n)
  | bound value => some (.placeholder (shown value))

/-- The class of character that a piece starts with. -/
def opens : Piece → CharClass
  | space => .blank
  | word _ => .letter
  | symbol s => s.opens
  | name _ => .doubleQuote
  | literal _ => .singleQuote
  | numeral _ => .digit
  | bound _ => .dollar

/-- A character of this class directly behind the piece would be read as part of it. -/
def runsInto (p : Piece) (k : CharClass) : Bool :=
  match p.opens with
  | .letter => k.inWord
  | .digit | .dollar => k.inNumeral
  | .doubleQuote => k == .doubleQuote
  | .singleQuote => k == .singleQuote
  | .operator => k.inOperator
  | .blank | .solo | .colon | .other => false

end Piece

/-- Whether a text starts with a character of one class and goes on with characters that continue it. -/
def spells (first : CharClass) (continues : CharClass → Bool) : List Char → Bool
  | [] => false
  | c :: more => CharClass.of c == first && more.all fun d => continues (CharClass.of d)

theorem exists_of_spells {first : CharClass} {continues : CharClass → Bool} {text : List Char}
    (h : spells first continues text = true) : ∃ c more, text = c :: more ∧
      CharClass.of c = first ∧ ∀ d ∈ more, continues (CharClass.of d) = true := by
  cases text with
  | nil => cases h
  | cons c more =>
    rw [spells, Bool.and_eq_true, beq_iff_eq, List.all_eq_true] at h
    exact ⟨c, more, rfl, h⟩

/-- A word starts with a letter and goes on with characters of words. -/
theorem Word.spells_text (w : Word) : spells .letter CharClass.inWord w.text.toList = true := by
  cases w <;> rfl

theorem Symbol.toList_text_operator {s : Symbol} (h : s.opens = .operator) :
    ∃ c more, s.text.toList = c :: more ∧
      CharClass.of c = .operator ∧ ∀ d ∈ more, (CharClass.of d).inOperator = true := by
  apply exists_of_spells
  cases s <;> first | rfl | cases h

/-! ## §2 — one piece -/

/-- A canonical name holds no quote. -/
theorem Identifier.quote_notMem (name : Identifier) {quote : Char}
    (isQuote : isNamePart quote = false) : quote ∉ name.text.toList := by
  intro mem
  rw [Identifier.isNamePart_of_mem mem] at isQuote
  exact Bool.noConfusion isQuote

theorem Identifier.toList_quoted (name : Identifier) :
    name.quoted.toList = '"' :: (name.text.toList ++ ['"']) := by
  rw [quoted, String.toList_append, String.toList_append]
  rfl

theorem Identifier.toList_literal (name : Identifier) :
    name.literal.toList = '\x27' :: (name.text.toList ++ ['\x27']) := by
  rw [literal, String.toList_append, String.toList_append]
  rfl

/-- The digits of a number are digits, there is one, and the number is read off them. -/
theorem decimal_toDigits (n : Nat) : ∃ c more, Nat.toDigits 10 n = c :: more ∧
    CharClass.of c = .digit ∧ (∀ d ∈ more, (CharClass.of d).inNumeral = true) ∧
    decimal (c :: more) = n := by
  have digits : ∀ d ∈ Nat.toDigits 10 n, CharClass.of d = .digit := fun d hd =>
    CharClass.of_isDigit (Nat.isDigit_of_mem_toDigits (by decide) (by decide) hd)
  have value : decimal (Nat.toDigits 10 n) = n := Nat.ofDigitChars_ten_toDigits
  cases shape : Nat.toDigits 10 n with
  | nil => exact absurd shape Nat.toDigits_ne_nil
  | cons c more =>
    rw [shape] at digits value
    refine ⟨c, more, rfl, digits c (List.mem_cons_self ..), ?_, value⟩
    intro d hd
    rw [digits d (List.mem_cons_of_mem _ hd)]
    rfl

/-- A text between double quotes is read as a name. -/
theorem lex_doubleQuoted {inner rest : List Char} (clear : '"' ∉ inner)
    (ends : ∀ c ∈ rest.head?, (CharClass.of c == .doubleQuote) = false) :
    lex ('"' :: (inner ++ '"' :: rest)) = (lex rest).map (.name (String.ofList inner) :: ·) := by
  have quote : CharClass.of '"' = .doubleQuote := by decide
  have closing : ∀ c ∈ rest.head?, c ≠ '"' := by
    rintro c hc rfl
    exact absurd (ends _ hc) (by decide)
  apply lex_of_lexOne
  rw [lexOne, quote]
  exact congrArg (Option.map _) (closeQuote_append clear closing)

/-- A text between single quotes is read as a literal. -/
theorem lex_singleQuoted {inner rest : List Char} (clear : '\x27' ∉ inner)
    (ends : ∀ c ∈ rest.head?, (CharClass.of c == .singleQuote) = false) :
    lex ('\x27' :: (inner ++ '\x27' :: rest)) =
      (lex rest).map (.literal (String.ofList inner) :: ·) := by
  have quote : CharClass.of '\x27' = .singleQuote := by decide
  have closing : ∀ c ∈ rest.head?, c ≠ '\x27' := by
    rintro c hc rfl
    exact absurd (ends _ hc) (by decide)
  apply lex_of_lexOne
  rw [lexOne, quote]
  exact congrArg (Option.map _) (closeQuote_append clear closing)

/-- A blank is passed over. -/
theorem lex_blank (rest : List Char) : lex (' ' :: rest) = lex rest := by
  rw [lex, if_pos (by decide)]

/-- A word is as long as it can be. -/
theorem lex_word {text rest : List Char} (word : spells .letter CharClass.inWord text = true)
    (ends : ∀ d ∈ rest.head?, (CharClass.of d).inWord = false) :
    lex (text ++ rest) = (lex rest).map (.word (String.ofList text) :: ·) := by
  obtain ⟨c, more, rfl, letter, inside⟩ := exists_of_spells word
  rw [List.cons_append]
  apply lex_of_lexOne
  rw [lexOne, letter]
  simp only [runOf_append inside ends]

/-- A placeholder is read as its number. -/
theorem lex_placeholder (n : Nat) {rest : List Char}
    (ends : ∀ c ∈ rest.head?, (CharClass.of c).inNumeral = false) :
    lex ('$' :: (Nat.toDigits 10 n ++ rest)) = (lex rest).map (.placeholder n :: ·) := by
  obtain ⟨c, more, digits, digit, inside, value⟩ := decimal_toDigits n
  have all : ∀ d ∈ c :: more, (CharClass.of d).inNumeral = true := by
    intro d hd
    rcases List.mem_cons.1 hd with rfl | hd
    · rw [digit]; rfl
    · exact inside d hd
  rw [digits]
  apply lex_of_lexOne
  rw [lexOne, show CharClass.of '$' = .dollar by decide]
  simp only [runOf_append all ends, value]
  rfl

namespace Piece

/-- The text behind a piece does not run into it. -/
def EndsBefore (p : Piece) (rest : List Char) : Prop :=
  ∀ c ∈ rest.head?, p.runsInto (.of c) = false

/-- A symbol is read as its token. An operator is as long as it can be, the other symbols are not, and
`'[]'` is a literal. -/
theorem lex_symbol (s : Symbol) (next : Nat) {rest : List Char} (ends : (symbol s).EndsBefore rest) :
    lex (s.text.toList ++ rest) =
      (lex rest).map fun tokens => ((symbol s).token? fun _ => next).toList ++ tokens := by
  cases kind : s.opens with
  | operator =>
    obtain ⟨c, more, spelled, operator, inside⟩ := s.toList_text_operator kind
    have apart : ∀ c ∈ rest.head?, (CharClass.of c).inOperator = false := by
      intro c hc
      have ends := ends c hc
      rwa [runsInto, opens, kind] at ends
    have token : (symbol s).token? (fun _ => next) = some (.symbol s.text) := by
      cases s <;> first | rfl | exact absurd kind (by decide)
    rw [spelled, List.cons_append, token]
    apply lex_of_lexOne
    rw [lexOne, operator]
    simp only [runOf_append inside apart, ← spelled, String.ofList_toList]
  | solo | colon =>
    cases s <;> first | exact absurd kind (by decide) | exact lex_of_lexOne rfl
  | singleQuote =>
    have apart : ∀ c ∈ rest.head?, (CharClass.of c == .singleQuote) = false := by
      intro c hc
      have ends := ends c hc
      rwa [runsInto, opens, kind] at ends
    have clear : '\x27' ∉ ['[', ']'] := by decide
    cases s <;> first | exact absurd kind (by decide) | exact lex_singleQuoted clear apart
  | blank | letter | digit | dollar | doubleQuote | other =>
    cases s <;> exact absurd kind (by decide)

/-- **A piece is read as its token**, unless the text behind it runs into it. -/
theorem lex_text (p : Piece) (next : Nat) {rest : List Char} (ends : p.EndsBefore rest) :
    lex (p.text next ++ rest) =
      (lex rest).map fun tokens => (p.token? fun _ => next).toList ++ tokens := by
  cases p with
  | space =>
    rw [text, List.cons_append, List.nil_append, lex_blank]
    cases lex rest <;> rfl
  | word w =>
    have read := lex_word w.spells_text ends
    rw [String.ofList_toList] at read
    exact read
  | numeral n =>
    obtain ⟨c, more, digits, digit, inside, value⟩ := decimal_toDigits n
    rw [text, digits, List.cons_append]
    apply lex_of_lexOne
    rw [lexOne, digit]
    simp only [runOf_append inside ends, value]
  | bound v => exact lex_placeholder next ends
  | name n =>
    have clear : '"' ∉ n.text.toList := n.quote_notMem (by decide)
    have read := lex_doubleQuoted clear ends
    rw [String.ofList_toList] at read
    rw [text, n.toList_quoted, List.cons_append, List.append_assoc]
    exact read
  | literal n =>
    have clear : '\x27' ∉ n.text.toList := n.quote_notMem (by decide)
    have read := lex_singleQuoted clear ends
    rw [String.ofList_toList] at read
    rw [text, n.toList_literal, List.cons_append, List.append_assoc]
    exact read
  | symbol s => exact lex_symbol s next ends

/-- The text of a piece starts as its class says. -/
theorem head?_text (p : Piece) (next : Nat) :
    ∃ c more, p.text next = c :: more ∧ CharClass.of c = p.opens := by
  cases p with
  | space => exact ⟨' ', [], rfl, by decide⟩
  | word w =>
    obtain ⟨c, more, spelled, letter, -⟩ := exists_of_spells w.spells_text
    exact ⟨c, more, spelled, letter⟩
  | symbol s => cases s <;> exact ⟨_, _, rfl, by decide⟩
  | name n => exact ⟨'"', _, n.toList_quoted, (by decide : CharClass.of '"' = .doubleQuote)⟩
  | literal n =>
    exact ⟨'\x27', _, n.toList_literal, (by decide : CharClass.of '\x27' = .singleQuote)⟩
  | numeral n =>
    obtain ⟨c, more, digits, digit, -, -⟩ := decimal_toDigits n
    exact ⟨c, more, digits, digit⟩
  | bound v => exact ⟨'$', _, rfl, (by decide : CharClass.of '$' = .dollar)⟩

/-- Two pieces can stand side by side. -/
def fits (p q : Piece) : Bool :=
  !p.runsInto q.opens

/-- The piece is more than a placeholder for what stands in the vocabulary: it is not the literal that
gathering rows starts from. -/
def isPlain : Piece → Bool
  | symbol .emptyArray => false
  | _ => true

end Piece

/-! ## §3 — legible templates -/

namespace Template

/-- **No piece runs into the next one**, and every quoted text is a canonical name. -/
structure Legible (t : Template) : Prop where
  spaced : t.IsChain fun p q => p.fits q = true
  plain : ∀ p ∈ t, p.isPlain = true

/-- The tokens of a template whose first bound value is the `next`-th of the statement. -/
def numbered (next : Nat) : Template → List (Token Nat)
  | [] => []
  | p :: rest => (p.token? fun _ => next).toList ++ numbered (next + (params [p]).length) rest

/-- The tokens of a template, with the bound values in their places. -/
def tokens (t : Template) : List (Token Param) :=
  t.filterMap (Piece.token? id)

theorem toList_write_cons (next : Nat) (p : Piece) (rest : Template) :
    (write next (p :: rest)).toList =
      p.text next ++ (write (next + (params [p]).length) rest).toList := by
  cases p <;> simp [write, Piece.text, params]

/-- **The text of a template is read as its tokens.** -/
theorem lex_write {t : Template} (spaced : t.IsChain fun p q => p.fits q = true) (next : Nat) :
    lex (write next t).toList = some (numbered next t) := by
  induction t generalizing next with
  | nil => rw [write, numbered]; simp [lex]
  | cons p rest ih =>
    have ends : p.EndsBefore (write (next + (params [p]).length) rest).toList := by
      intro c hc
      cases rest with
      | nil => simp [write] at hc
      | cons q more =>
        obtain ⟨d, left, starts, opens⟩ := q.head?_text (next + (params [p]).length)
        rw [toList_write_cons, starts, List.cons_append, List.head?_cons, Option.mem_some_iff] at hc
        rw [← hc, opens]
        have fit := (List.isChain_cons_cons.1 spaced).1
        rwa [Piece.fits, Bool.not_eq_true'] at fit
    rw [toList_write_cons, p.lex_text next ends, ih spaced.tail]
    rfl

end Template

/-! ## §4 — placeholders stand for values -/

/-- The token with the value that its placeholder stands for; none when there is no such value. -/
def Token.resolve (params : List Param) : Token Nat → Option (Token Param)
  | word text => some (.word text)
  | name text => some (.name text)
  | literal text => some (.literal text)
  | numeral n => some (.numeral n)
  | symbol text => some (.symbol text)
  | placeholder 0 => none
  | placeholder (k + 1) => (params[k]?).map .placeholder

/-- **What a database reads** from a text and its parameters. -/
def readTokens (sql : String) (params : List Param) : Option (List (Token Param)) :=
  (lex sql.toList).bind (·.mapM (Token.resolve params))

namespace Template

/-- A placeholder is resolved to the value at its place; any other token stays as it is. -/
theorem mapM_resolve_token? {values : List Param} {k : Nat} (p : Piece)
    (found : ∀ v, p = .bound v → values[k]? = some v) :
    (p.token? fun _ => k + 1).toList.mapM (Token.resolve values) =
      some (p.token? id).toList := by
  cases p with
  | bound v =>
    have here := found v rfl
    simp [Piece.token?, Token.resolve, here]
  | symbol s => cases s <;> rfl
  | space | word | name | literal | numeral => rfl

/-- **Placeholders stand for the values that were bound in their places.** -/
theorem mapM_resolve_numbered (before : List Param) (t : Template) :
    (numbered (before.length + 1) t).mapM (Token.resolve (before ++ params t)) = some t.tokens := by
  induction t generalizing before with
  | nil => rfl
  | cons p rest ih =>
    have values : before ++ params (p :: rest) = before ++ params [p] ++ params rest := by
      rw [List.append_assoc, ← params_append, List.singleton_append]
    have found : ∀ v, p = .bound v → (before ++ params (p :: rest))[before.length]? = some v := by
      rintro v rfl
      simp [params]
    have tokens_cons : tokens (p :: rest) = (p.token? id).toList ++ tokens rest := by
      rw [tokens, List.filterMap_cons]
      cases p.token? id <;> rfl
    have later := ih (before ++ params [p])
    rw [List.length_append, ← values, Nat.add_right_comm] at later
    rw [numbered, List.mapM_append, mapM_resolve_token? p found, later, tokens_cons]
    rfl

/-- A template whose pieces do not run into each other is read back from its text and its parameters. -/
theorem readTokens_sql {t : Template} (spaced : t.IsChain fun p q => p.fits q = true) :
    readTokens t.sql t.params = some t.tokens := by
  rw [readTokens, sql, lex_write spaced]
  exact mapM_resolve_numbered [] t

/-- **A legible template is read back** from its text and its parameters. -/
theorem read_sql {t : Template} (legible : t.Legible) : readTokens t.sql t.params = some t.tokens :=
  readTokens_sql legible.spaced

end Template

/-! ## §5 — putting legible templates together -/

/-- The piece runs into nothing, and nothing runs into it. -/
def Piece.isLoose (p : Piece) : Bool :=
  p.opens == .blank || p.opens == .solo || p.opens == .colon

namespace Piece

variable {p q : Piece}

theorem fits_of_isLoose (h : p.isLoose = true) (q : Piece) : p.fits q = true := by
  simp only [isLoose, Bool.or_eq_true, beq_iff_eq] at h
  rw [fits, runsInto]
  rcases h with (h | h) | h <;> rw [h] <;> rfl

theorem fits_isLoose (p : Piece) (h : q.isLoose = true) : p.fits q = true := by
  simp only [isLoose, Bool.or_eq_true, beq_iff_eq] at h
  rw [fits, runsInto]
  rcases h with (h | h) | h <;> rw [h] <;> cases p.opens <;> rfl

theorem isPlain_of_isLoose (h : p.isLoose = true) : p.isPlain = true := by
  unfold isPlain
  split
  · exact absurd h (by decide)
  · rfl

end Piece

namespace Template

variable {p q : Piece} {s t : Template}

@[simp] theorem legible_nil : Legible [] :=
  ⟨.nil, by simp⟩

theorem legible_singleton (plain : p.isPlain = true) : Legible [p] :=
  ⟨.singleton p, by simpa using plain⟩

/-- A template whose pieces are known is checked by going through it. -/
def isLegible (t : Template) : Bool :=
  t.all Piece.isPlain && (t.zip t.tail).all fun (p, q) => p.fits q

theorem legible_of_check (h : t.isLegible = true) : Legible t := by
  simp only [isLegible, Bool.and_eq_true, List.all_eq_true] at h
  refine ⟨?_, h.1⟩
  have pairs := h.2
  clear h
  induction t with
  | nil => exact .nil
  | cons p rest ih =>
    refine List.isChain_cons.2 ⟨fun q hq => ?_, ih fun pair hp => ?_⟩
    · cases rest with
      | nil => simp at hq
      | cons q' more =>
        obtain rfl : q' = q := by simpa using hq
        exact pairs (p, q') (by simp)
    · cases rest with
      | nil => simp at hp
      | cons q' more => exact pairs pair (by simp_all)

/-- The template is empty or starts with a loose piece. -/
def startsLoose : Template → Bool
  | [] => true
  | p :: _ => p.isLoose

/-- The template is empty or ends with a loose piece. -/
def endsLoose (t : Template) : Bool :=
  t.getLast?.all Piece.isLoose

/-- Nothing runs into a template that starts with a loose piece. -/
theorem spaced_append (hs : s.IsChain fun p q => p.fits q = true)
    (ht : t.IsChain fun p q => p.fits q = true) (loose : t.startsLoose = true) :
    (s ++ t).IsChain fun p q => p.fits q = true := by
  refine hs.append ht fun p _ q hq => Piece.fits_isLoose p ?_
  cases t with
  | nil => simp at hq
  | cons q' more =>
    obtain rfl : q' = q := by simpa using hq
    exact loose

/-- A template that ends with a loose piece runs into nothing. -/
theorem spaced_append_left (hs : s.IsChain fun p q => p.fits q = true)
    (ht : t.IsChain fun p q => p.fits q = true) (loose : s.endsLoose = true) :
    (s ++ t).IsChain fun p q => p.fits q = true := by
  refine hs.append ht fun p hp q _ => Piece.fits_of_isLoose ?_ q
  rw [endsLoose, hp] at loose
  exact loose

/-- Two legible templates can stand side by side when the second starts with a loose piece. -/
theorem Legible.append (hs : Legible s) (ht : Legible t) (loose : t.startsLoose = true) :
    Legible (s ++ t) where
  spaced := spaced_append hs.spaced ht.spaced loose
  plain p hp := (List.mem_append.1 hp).elim (hs.plain p) (ht.plain p)

/-- Two legible templates can stand side by side when the first ends with a loose piece. -/
theorem Legible.append_left (hs : Legible s) (ht : Legible t) (loose : s.endsLoose = true) :
    Legible (s ++ t) where
  spaced := spaced_append_left hs.spaced ht.spaced loose
  plain p hp := (List.mem_append.1 hp).elim (hs.plain p) (ht.plain p)

/-- A loose piece stands in front of anything. -/
theorem Legible.cons (ht : Legible t) (loose : p.isLoose = true) : Legible (p :: t) where
  spaced := List.isChain_cons.2 ⟨fun q _ => p.fits_of_isLoose loose q, ht.spaced⟩
  plain q hq := (List.mem_cons.1 hq).elim (· ▸ p.isPlain_of_isLoose loose) (ht.plain q)

/-- **A loose piece joins two legible templates.** -/
theorem Legible.join (hs : Legible s) (ht : Legible t) (loose : p.isLoose = true) :
    Legible (s ++ p :: t) :=
  hs.append (ht.cons loose) loose

theorem Legible.paren (ht : Legible t) : Legible (paren t) :=
  (ht.join legible_nil rfl).cons rfl

/-- Legible parts between separators that start and end with a loose piece. -/
theorem legible_joined {first last : Piece} {m : Template} (hm : Legible m)
    (loose : first.isLoose = true) (loose' : last.isLoose = true) {parts : List Template}
    (all : ∀ t ∈ parts, Legible t) : Legible (joined (first :: (m ++ [last])) parts) := by
  induction parts with
  | nil => exact legible_nil
  | cons part rest ih =>
    have here := all part (List.mem_cons_self ..)
    cases rest with
    | nil => simpa [joined] using here
    | cons part' rest =>
      have later := ih fun t ht => all t (List.mem_cons_of_mem _ ht)
      have shape : joined (first :: (m ++ [last])) (part :: part' :: rest) =
          part ++ first :: (m ++ last :: joined (first :: (m ++ [last])) (part' :: rest)) := by
        simp [joined, List.intercalate_cons_cons]
      rw [shape]
      exact here.join (hm.join later loose') loose

theorem legible_listed {parts : List Template} (all : ∀ t ∈ parts, Legible t) :
    Legible (listed parts) :=
  legible_joined (m := []) legible_nil rfl rfl all

theorem legible_names (ns : List Identifier) : Legible (names ns) := by
  apply legible_listed
  intro t ht
  obtain ⟨n, -, rfl⟩ := List.mem_map.1 ht
  exact legible_singleton rfl

end Template

end Gateway.Sql
