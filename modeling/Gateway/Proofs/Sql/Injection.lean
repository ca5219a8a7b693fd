import Gateway.Proofs.Sql.Independence
import Gateway.Proofs.Sql.Legibility

/-!
# No statement can be broken into

Untrusted text reaches the statements as names, which are canonical, and as values, which are bound. So
the text of every statement is sealed (`IsSealed`): read as a database reads it, it consists of the fixed
vocabulary, numerals, quoted canonical names and the placeholders `$1`, `$2`, … of its own values. And
requests that differ only in their values have the same text.

`compiled_text` says both of everything that can be asked for.
-/

namespace Gateway.Sql

open Template (numbered)

/-! ## §1 — sealed texts -/

namespace Token

variable {α : Type}

/-- The token is one that statements are written with, whatever was asked for. -/
def IsFixed : Token α → Prop
  | word text => ∃ w : Word, text = w.text
  | symbol text => ∃ s : Symbol, s ≠ .emptyArray ∧ text = s.text
  | name text | literal text => isCanonical text.toList = true
  | numeral _ | placeholder _ => True

/-- What a placeholder stands for. -/
def placeholder? : Token α → Option α
  | placeholder value => some value
  | _ => none

end Token

/-- **The text is sealed**: it can be read, each token is one that statements are written with, and the
placeholders count the bound values from one. -/
def IsSealed (sql : String) (bound : Nat) : Prop :=
  ∃ tokens, lex sql.toList = some tokens ∧ (∀ token ∈ tokens, token.IsFixed) ∧
    tokens.filterMap Token.placeholder? = List.range' 1 bound

theorem Piece.isFixed_token? {α : Type} {shown : Param → α} {p : Piece} (plain : p.isPlain = true) :
    ∀ token ∈ p.token? shown, token.IsFixed := by
  intro token ht
  cases p with
  | space => simp [token?] at ht
  | word w =>
    obtain rfl : .word w.text = token := by simpa [token?] using ht
    exact ⟨w, rfl⟩
  | symbol s =>
    have other : s ≠ .emptyArray := by
      rintro rfl
      exact absurd plain (by decide)
    obtain rfl : .symbol s.text = token := by
      cases s <;> first | exact absurd rfl other | exact Option.some.inj ht
    exact ⟨s, other, rfl⟩
  | name n =>
    obtain rfl : .name n.text = token := by simpa [token?] using ht
    exact n.canonical
  | literal n =>
    obtain rfl : .literal n.text = token := by simpa [token?] using ht
    exact n.canonical
  | numeral n =>
    obtain rfl : .numeral n = token := by simpa [token?] using ht
    trivial
  | bound v =>
    obtain rfl : .placeholder (shown v) = token := by simpa [token?] using ht
    trivial

namespace Template

theorem isFixed_numbered {t : Template} (plain : ∀ p ∈ t, p.isPlain = true) (next : Nat) :
    ∀ token ∈ numbered next t, token.IsFixed := by
  induction t generalizing next with
  | nil => simp [numbered]
  | cons p rest ih =>
    intro token ht
    rw [numbered, List.mem_append] at ht
    rcases ht with here | later
    · exact p.isFixed_token? (plain p (List.mem_cons_self ..)) token (Option.mem_toList.1 here)
    · exact ih (fun q hq => plain q (List.mem_cons_of_mem _ hq)) _ token later

/-- **The placeholders of a template** are numbered in order, one for each bound value. -/
theorem placeholders_numbered (next : Nat) (t : Template) :
    (numbered next t).filterMap Token.placeholder? = List.range' next (params t).length := by
  induction t generalizing next with
  | nil => rfl
  | cons p rest ih =>
    rw [numbered, List.filterMap_append, ih]
    cases p with
    | bound v => simp [Piece.token?, Token.placeholder?, params, List.range'_succ]
    | symbol s => cases s <;> simp [Piece.token?, Token.placeholder?, params]
    | space | word | name | literal | numeral => simp [Piece.token?, Token.placeholder?, params]

theorem Legible.isSealed {t : Template} (legible : t.Legible) : IsSealed t.sql t.params.length :=
  ⟨numbered 1 t, lex_write legible.spaced 1, isFixed_numbered legible.plain 1,
    placeholders_numbered 1 t⟩

end Template

/-! ## §2 — what can be asked for -/

/-- What statements are compiled from. -/
inductive Compilation where
  /-- Reading the rows of a table, with a cap on their number. -/
  | select (table : String) (parameters : List (String × String)) (maxRows : Option Nat)
      (resolver : EmbedResolver)
  /-- Counting the rows of a table. -/
  | count (table : String) (parameters : List (String × String))
  | insert (table : Identifier) (body : Json) (returning : Bool) (upsert : Option Upsert)
      (allowed : Option (List Identifier))
  | update (table : Identifier) (body : Json) (filters : List Filter) (returning : Bool)
  | delete (table : Identifier) (filters : List Filter) (returning : Bool)
  | call (function : String) (arguments : List (String × Json))

namespace Compilation

/-- The statements that are compiled. -/
def statements : Compilation → Except Rejection (List Statement)
  | select table parameters maxRows resolver =>
    (Query.read table parameters).map fun q => [(q.withMaxRows maxRows).selectStatement resolver]
  | count table parameters => (Query.read table parameters).map fun q => [q.countStatement]
  | insert table body returning upsert allowed => Sql.insert table body returning upsert allowed
  | update table body filters returning =>
    (Sql.update table body filters returning).map fun s => [s]
  | delete table filters returning => (Sql.delete table filters returning).map fun s => [s]
  | call function arguments => (Sql.call function arguments).map fun s => [s]

/-- The texts of the statements that are compiled. -/
def texts (c : Compilation) : Except Rejection (List String) :=
  c.statements.map (List.map Statement.sql)

/-- **Two requests that differ only in their values**: in those of filters, in the scalar values of
bodies, and in arguments that are passed with the same casts. -/
inductive SameButValues : Compilation → Compilation → Prop where
  | select {table table' : String} {parameters parameters' : List (String × String)}
      (same : (Query.read table parameters).map Query.blanked =
        (Query.read table' parameters').map Query.blanked)
      (maxRows : Option Nat) (resolver : EmbedResolver) :
      SameButValues (.select table parameters maxRows resolver)
        (.select table' parameters' maxRows resolver)
  | count {table table' : String} {parameters parameters' : List (String × String)}
      (same : (Query.read table parameters).map Query.blanked =
        (Query.read table' parameters').map Query.blanked) :
      SameButValues (.count table parameters) (.count table' parameters')
  | insert {body body' : Json} (same : blankBody body = blankBody body') (table : Identifier)
      (returning : Bool) (upsert : Option Upsert) (allowed : Option (List Identifier)) :
      SameButValues (.insert table body returning upsert allowed)
        (.insert table body' returning upsert allowed)
  | update {body body' : Json} {filters filters' : List Filter}
      (same : blankBody body = blankBody body')
      (filtered : filters.map Filter.blanked = filters'.map Filter.blanked)
      (table : Identifier) (returning : Bool) :
      SameButValues (.update table body filters returning) (.update table body' filters' returning)
  | delete {filters filters' : List Filter}
      (filtered : filters.map Filter.blanked = filters'.map Filter.blanked)
      (table : Identifier) (returning : Bool) :
      SameButValues (.delete table filters returning) (.delete table filters' returning)
  | call {arguments arguments' : List (String × Json)}
      (same : arguments.map argumentShape = arguments'.map argumentShape) (function : String) :
      SameButValues (.call function arguments) (.call function arguments')

theorem legible_statements {c : Compilation} {compiled : List Statement}
    (ok : c.statements = .ok compiled) : ∀ s ∈ compiled, s.template.Legible := by
  intro s hs
  cases c with
  | select table parameters maxRows resolver =>
    obtain ⟨q, -, rfl⟩ := map_eq_ok_iff.1 ok
    rw [List.mem_singleton.1 hs]
    exact Query.legible_selectStatement _ resolver
  | count table parameters =>
    obtain ⟨q, -, rfl⟩ := map_eq_ok_iff.1 ok
    rw [List.mem_singleton.1 hs]
    exact q.legible_countStatement
  | insert table body returning upsert allowed => exact legible_insert ok s hs
  | update table body filters returning =>
    obtain ⟨t, written, rfl⟩ := map_eq_ok_iff.1 ok
    rw [List.mem_singleton.1 hs]
    exact legible_update written
  | delete table filters returning =>
    obtain ⟨t, written, rfl⟩ := map_eq_ok_iff.1 ok
    rw [List.mem_singleton.1 hs]
    exact legible_delete written
  | call function arguments =>
    obtain ⟨t, written, rfl⟩ := map_eq_ok_iff.1 ok
    rw [List.mem_singleton.1 hs]
    exact legible_call written

/-- The texts of the statements are those of their skeletons. -/
theorem texts_eq (c : Compilation) :
    c.texts = (c.statements.map (List.map Statement.skeleton)).map (List.map Template.sql) := by
  rw [texts, map_map]
  refine congrArg (fun f => Except.map f c.statements) (funext fun compiled => ?_)
  rw [List.map_map]
  exact List.map_congr_left fun s _ => s.sql_skeleton.symm

/-- Two requests for one statement whose statements have the same skeletons. -/
theorem skeleton_singleton {x y : Except Rejection Statement}
    (same : x.map Statement.skeleton = y.map Statement.skeleton) :
    (x.map fun s => [s]).map (List.map Statement.skeleton) =
      (y.map fun s => [s]).map (List.map Statement.skeleton) := by
  rw [map_map, map_map]
  exact map_eq_map_of_imp same fun _ _ same => congrArg (fun t => [t]) same

theorem skeleton_statements {c c' : Compilation} (same : SameButValues c c') :
    c.statements.map (List.map Statement.skeleton) =
      c'.statements.map (List.map Statement.skeleton) := by
  cases same with
  | select same maxRows resolver =>
    simp only [statements, map_map]
    apply map_eq_map_of_imp same
    intro q q' same
    have capped : (q.withMaxRows maxRows).blanked = (q'.withMaxRows maxRows).blanked := by
      rw [Query.blanked_withMaxRows, Query.blanked_withMaxRows, same]
    exact congrArg (fun t => [t]) (Query.skeleton_selectStatement capped resolver)
  | count same =>
    simp only [statements, map_map]
    apply map_eq_map_of_imp same
    intro q q' same
    exact congrArg (fun t => [t]) (Query.skeleton_countStatement same)
  | @insert body body' same table returning upsert allowed =>
    have one := skeleton_insert table body returning upsert allowed
    rw [same] at one
    exact one.trans (skeleton_insert table body' returning upsert allowed).symm
  | @update body body' filters filters' same filtered table returning =>
    have one := skeleton_update table body filtered returning
    rw [same] at one
    exact skeleton_singleton (one.trans (skeleton_update table body' rfl returning).symm)
  | delete filtered table returning => exact skeleton_singleton (skeleton_delete table filtered returning)
  | call same function => exact skeleton_singleton (skeleton_call function same)

/-- **No statement can be broken into.** The text of every statement that is compiled is sealed, and
requests that differ only in their values are compiled to the same texts, or refused alike. -/
theorem compiled_text :
    (∀ (c : Compilation) (compiled : List Statement), c.statements = .ok compiled →
      ∀ s ∈ compiled, IsSealed s.sql s.params.length) ∧
    ∀ c c' : Compilation, SameButValues c c' → c.texts = c'.texts := by
  refine ⟨?_, ?_⟩
  · intro c compiled ok s hs
    exact (legible_statements ok s hs).isSealed
  · intro c c' same
    rw [texts_eq, texts_eq, skeleton_statements same]

/-- A value that tries to end its literal stays a value. -/
theorem compiled_text_hostile :
    let update (name : String) : Compilation :=
      .update ⟨"users", by decide⟩ (.obj [("name", .str name)])
        [.condition ⟨.id, false, .compare .eq name⟩] false
    let hostile : String := "x\x27; DROP TABLE users; --"
    (∃ s, (update hostile).statements = .ok [s] ∧ IsSealed s.sql 2) ∧
      (update hostile).texts = (update "x").texts := by
  intro update hostile
  have compiled : (update hostile).statements = .ok
      [updateOf ⟨"users", by decide⟩ [.condition ⟨.id, false, .compare .eq hostile⟩] false
        [⟨⟨"name", by decide⟩, .ofColumnValue (.str hostile)⟩]] := by rfl
  have same : SameButValues (update hostile) (update "x") := by
    refine .update ?_ ?_ _ _ <;> rfl
  refine ⟨⟨_, compiled, ?_⟩, compiled_text.2 _ _ same⟩
  exact compiled_text.1 _ _ compiled _ (List.mem_singleton.2 rfl)

end Compilation

end Gateway.Sql
