import Gateway.Database.Executor
import Gateway.Proofs.Sql.Reading

/-!
# What the database is told of a caller

Policies on rows see a caller through settings of the transaction: the subject, the role, the e-mail
address and all claims, each empty where it is not known. If callers take on their role, that is one more
setting, and if the time of statements is limited, the limit is the last one. `callerSettings` lists them
with their values.

`setsAll_project` says that the statement that reaches the connection, read as a database reads it, sets
just these, each to its own value, and each up to the end of the transaction.
-/

namespace Gateway.Database

open Gateway.Auth (Identity)
open Gateway.Sql

/-! ## §1 — settings -/

/-- **The settings of a caller**, with their values. -/
def callerSettings (c : Config) (i : Identity) : List Setting :=
  let limit := match c.statementTimeout with
    | some milliseconds => [⟨"statement_timeout", toString milliseconds⟩]
    | none => []
  ⟨"request.jwt.claim.sub", i.subject.getD ""⟩ ::
  ⟨"request.jwt.claim.role", i.role⟩ ::
  ⟨"request.jwt.claim.email", i.email.getD ""⟩ ::
  ⟨"request.jwt.claims", i.claims.text⟩ ::
  if c.assumeRole then ⟨"role", i.role⟩ :: limit else limit

/-- These are the settings that a transaction projects. -/
theorem identitySettings_eq (c : Config) (i : Identity) :
    identitySettings c i = callerSettings c i := by
  unfold identitySettings callerSettings
  cases c.assumeRole <;> cases c.statementTimeout <;> rfl

namespace Setting

/-- The call that sets a setting, as a database reads it; `true` limits it to the transaction. -/
def call {α : Type} (s : Setting) (value : α) : List (Token α) :=
  [.word "set_config", .symbol "(", .literal s.name, .symbol ",", .placeholder value, .symbol ",",
    .word "true", .symbol ")"]

/-- The name of a setting can stand between quotes. -/
def IsQuotable (s : Setting) : Prop :=
  '\x27' ∉ s.name.toList

end Setting

/-- **The statement sets these settings**, and does nothing else. -/
def SetsAll (settings : List Setting) (sent : Sent) : Prop :=
  ∃ sql params, sent = .statement sql params ∧
    readTokens sql params = some
      (.word "SELECT" :: [.symbol ","].intercalate (settings.map fun s => s.call (some s.value)))

/-! ## §2 — the text of the statement -/

/-- The call that sets a setting to the value of the `k`-th placeholder, as it is written. -/
def callText (s : Setting) (k : Nat) : String :=
  "set_config('" ++ s.name ++ "', $" ++ toString k ++ ", true)"

theorem toList_callText (s : Setting) (k : Nat) : (callText s k).toList =
    "set_config".toList ++ '(' :: '\x27' :: (s.name.toList ++ '\x27' :: ',' :: ' ' :: '$' ::
      (Nat.toDigits 10 k ++ ',' :: ' ' :: ("true".toList ++ [')']))) := by
  simp only [callText, String.toList_append, Nat.toString_eq_repr, Nat.repr, String.toList_ofList,
    List.append_assoc]
  rfl

/-- **The call is read as it is written.** -/
theorem lex_callText {s : Setting} (quotable : s.IsQuotable) (k : Nat) (rest : List Char) :
    lex ((callText s k).toList ++ rest) = (lex rest).map (s.call k ++ ·) := by
  have solo (c : Char) (rest : List Char) (h : CharClass.of c = .solo) :
      lex (c :: rest) = (lex rest).map (.symbol (String.ofList [c]) :: ·) :=
    lex_of_lexOne (by rw [lexOne, h])
  have name (rest : List Char) : lex ("set_config".toList ++ '(' :: rest) =
      (lex ('(' :: rest)).map (.word "set_config" :: ·) :=
    lex_word rfl (by simp; decide)
  have last (rest : List Char) : lex ("true".toList ++ ')' :: rest) =
      (lex (')' :: rest)).map (.word "true" :: ·) :=
    lex_word rfl (by simp; decide)
  simp only [toList_callText, List.append_assoc, List.cons_append, List.nil_append]
  rw [name, solo '(' _ (by decide), lex_singleQuoted quotable (by simp; decide), solo ',' _ (by decide),
    lex_blank, lex_placeholder k (by simp; decide), solo ',' _ (by decide), lex_blank, last,
    solo ')' _ (by decide)]
  simp only [Option.map_map]
  rw [String.ofList_toList]
  rfl

/-- The calls are read as they are written, with commas between them. -/
theorem lex_calls {settings : List Setting} (quotable : ∀ s ∈ settings, s.IsQuotable) (k : Nat) :
    lex ([',', ' '].intercalate ((settings.zipIdx k).map fun (s, k) => (callText s k).toList)) =
      some ([.symbol ","].intercalate ((settings.zipIdx k).map fun (s, k) => s.call k)) := by
  induction settings generalizing k with
  | nil => simp [lex]
  | cons s rest ih =>
    have later := ih (fun t mem => quotable t (List.mem_cons_of_mem _ mem)) (k + 1)
    have here := lex_callText (quotable s List.mem_cons_self) k
    cases rest with
    | nil => simpa [lex] using here []
    | cons t more =>
      simp only [List.zipIdx_cons, List.map_cons, List.intercalate_cons_cons, List.append_assoc] at later ⊢
      rw [here, List.cons_append, lex_of_lexOne (by rfl : lexOne ',' _ = some (.symbol ",", _)),
        List.cons_append, List.nil_append, lex_blank, later]
      rfl

/-! ## §3 — the values -/

/-- **Each call sets its setting to the value of its own.** -/
theorem mapM_resolve_calls (before : List Param) (settings : List Setting) :
    ([.symbol ","].intercalate
        ((settings.zipIdx (before.length + 1)).map fun (s, k) => s.call k)).mapM
      (Token.resolve (before ++ settings.map fun s => some s.value)) =
    some ([.symbol ","].intercalate (settings.map fun s => s.call (some s.value))) := by
  induction settings generalizing before with
  | nil => rfl
  | cons s rest ih =>
    have later := ih (before ++ [some s.value])
    rw [List.append_assoc, List.singleton_append, List.length_append, List.length_singleton] at later
    have here : (s.call (before.length + 1)).mapM
        (Token.resolve (before ++ (s :: rest).map fun s => some s.value)) =
          some (s.call (some s.value)) := by
      simp [Setting.call, Token.resolve]
    cases rest with
    | nil => simpa using here
    | cons t more =>
      simp only [List.zipIdx_cons, List.map_cons, List.intercalate_cons_cons, List.mapM_append] at *
      rw [here, later]
      rfl

/-- A statement sets its settings when their names can stand between quotes. -/
theorem setsAll_of_isQuotable {settings : List Setting} (quotable : ∀ s ∈ settings, s.IsQuotable) :
    SetsAll settings (Command.project settings).sent := by
  refine ⟨_, _, rfl, ?_⟩
  have text : (projectionSql settings).toList = "SELECT".toList ++ ' ' ::
      [',', ' '].intercalate ((settings.zipIdx 1).map fun (s, k) => (callText s k).toList) := by
    rw [projectionSql, String.toList_append, String.toList_intercalate, List.map_map]
    rfl
  have read : lex (projectionSql settings).toList = some (.word "SELECT" ::
      [.symbol ","].intercalate ((settings.zipIdx 1).map fun (s, k) => s.call k)) := by
    have word (rest : List Char) : lex ("SELECT".toList ++ ' ' :: rest) =
        (lex (' ' :: rest)).map (.word "SELECT" :: ·) :=
      lex_word rfl (by simp; decide)
    rw [text, word, lex_blank, lex_calls quotable]
    rfl
  have resolved := mapM_resolve_calls [] settings
  rw [List.nil_append, List.length_nil, Nat.zero_add] at resolved
  rw [readTokens, read, Option.bind_some, List.mapM_cons, resolved]
  rfl

/-- **The statement that tells the database who is calling** sets the settings of the caller. -/
theorem setsAll_project (c : Config) (i : Identity) :
    SetsAll (callerSettings c i) (Command.project (callerSettings c i)).sent := by
  apply setsAll_of_isQuotable
  unfold callerSettings Setting.IsQuotable
  cases c.assumeRole <;> cases c.statementTimeout <;> simp

end Gateway.Database
