import Gateway.Proofs.Sql.Placement

/-!
# Placeholders and parameters stay in step

A statement needs values for members of a body and for filters (`Need`). `Aligned` says that a text and its
parameters meet a need: the placeholders count from `$1` in the order of the text, each stands at the place
that its value is needed at, with its cast, and there are as many as the need counts.

`placeholders_aligned` says so of every statement that can be compiled, and of the text that yields its rows
as one JSON array and is run with the same parameters.
-/

namespace Gateway.Sql

open Template (Binds binds_of_inert inert_of_check paren tokens lex_write readTokens_sql
  placeholders_numbered spaced_append spaced_append_left)

/-! ## §1 — needs -/

/-- The values that a statement needs. -/
structure Need where
  /-- The values written from a body, or passed to a function. -/
  written : List Slot
  /-- The filters of the rows. -/
  filters : List Filter

/-- The places that the values are needed at: first what is written, then the filters. -/
def Need.slots (need : Need) : List Slot :=
  need.written ++ need.filters.flatMap Filter.slots

/-- **The text and its parameters meet a need.** -/
structure Aligned (sql : String) (params : List Param) (need : Need) : Prop where
  /-- The placeholders are `$1`, `$2`, … up to the number of parameters, from left to right. -/
  numbered : ∃ tokens, lex sql.toList = some tokens ∧
    tokens.filterMap Token.placeholder? = List.range' 1 params.length
  /-- Read from the text, each stands at the place of its value. -/
  placed : (readTokens sql params).map readSlots = some need.slots
  /-- The parameters are the values that are needed, in order. -/
  bound : params = need.slots.map Slot.value
  /-- There are as many as are written and as the filters count. -/
  counted : params.length = need.written.length + (need.filters.map Filter.paramCount).sum

theorem Need.length_slots (need : Need) :
    need.slots.length = need.written.length + (need.filters.map Filter.paramCount).sum := by
  rw [slots, List.length_append, Filter.length_flatMap_slots, Filter.paramCounts_eq_sum]

/-- **A template that adds the needed places is aligned.** -/
theorem Template.Binds.aligned {t : Template} {need : Need} (binds : Binds t need.slots)
    (spaced : t.IsChain fun p q => p.fits q = true) : Aligned t.sql t.params need where
  numbered := ⟨_, lex_write spaced 1, placeholders_numbered 1 t⟩
  placed := by rw [readTokens_sql spaced, Option.map_some, binds.readSlots_eq]
  bound := binds.params_eq
  counted := by rw [binds.params_eq, List.length_map, need.length_slots]

/-! ## §2 — rows as one JSON array -/

namespace Statement

/-- Gathering rows adds no place: its cast is not of a placeholder. -/
theorem binds_gathered : Binds gathered [] := by
  intro r free
  show ((r.step (.word "SELECT")).run _).behind ≠ _ ∧ ((r.step (.word "SELECT")).run _).found = _
  rw [SlotReader.step_word free (by decide) (by decide)]
  exact ⟨Behind.other_ne_cast, (List.append_nil _).symm⟩

/-- **Wrapping a statement keeps its places.** -/
theorem binds_jsonRows {s : Statement} {wrapped : Template} {slots : List Slot}
    (h : s.jsonRows = some wrapped) (binds : Binds s.template slots) : Binds wrapped slots := by
  have read : Binds (gathered ++ paren s.template ++
      ([.space, .word .asWord, .space, .name .rowAlias] : Template)) slots :=
    (binds_gathered.append binds.paren).before (inert_of_check rfl)
  have written : Binds
      (([.word .withWord, .space, .name .rowAlias, .space, .word .asWord, .space] : Template)
        ++ paren s.template ++ ([.space] : Template) ++ gathered ++ ([.name .rowAlias] : Template))
      (slots ++ []) :=
    (((binds.paren.after (inert_of_check rfl)).before (inert_of_check rfl)).append
      binds_gathered).before (inert_of_check rfl)
  rw [List.append_nil] at written
  unfold jsonRows at h
  split at h
  · exact Option.some.inj h ▸ read
  · exact Option.some.inj h ▸ read
  · split at h
    · exact Option.some.inj h ▸ written
    · simp at h

/-- The pieces of a wrapped statement do not run into each other, when those of the statement do not. -/
theorem spaced_jsonRows {s : Statement} {wrapped : Template} (h : s.jsonRows = some wrapped)
    (legible : s.template.Legible) : wrapped.IsChain fun p q => p.fits q = true := by
  have inner := legible.paren.spaced
  have read : List.IsChain (fun p q => Piece.fits p q = true) (gathered ++ paren s.template ++
      ([.space, .word .asWord, .space, .name .rowAlias] : Template)) :=
    spaced_append (spaced_append_left (by decide) inner rfl) (by decide) rfl
  have written : List.IsChain (fun p q => Piece.fits p q = true)
      (([.word .withWord, .space, .name .rowAlias, .space, .word .asWord, .space] : Template)
        ++ paren s.template
        ++ (([.space] : Template) ++ gathered ++ ([.name .rowAlias] : Template))) :=
    spaced_append (spaced_append_left (by decide) inner rfl) (by decide) rfl
  rw [← List.append_assoc, ← List.append_assoc] at written
  unfold jsonRows at h
  split at h
  · exact Option.some.inj h ▸ read
  · exact Option.some.inj h ▸ read
  · split at h
    · exact Option.some.inj h ▸ written
    · simp at h

/-- The text of the statement meets the need, and so does its wrapping with the same parameters. -/
structure Meets (s : Statement) (need : Need) : Prop where
  aligned : Aligned s.sql s.params need
  wrapped : ∀ wrapped, s.jsonRows = some wrapped → Aligned (Template.sql wrapped) s.params need

theorem meets_of_binds {s : Statement} {need : Need} (binds : Binds s.template need.slots)
    (legible : s.template.Legible) : s.Meets need where
  aligned := binds.aligned legible.spaced
  wrapped wrapped h := by
    have aligned := (binds_jsonRows h binds).aligned (spaced_jsonRows h legible)
    rwa [params_jsonRows h] at aligned

end Statement

/-! ## §3 — every statement -/

/-- The members of a body that is an object. -/
def membersOf : Json → List (String × Json)
  | .obj members => members
  | _ => []

namespace Compilation

/-- **What the statements of a request need**, one after the other. -/
def needs : Compilation → Except Rejection (List Need)
  | select table parameters _ _ | count table parameters =>
    (Query.read table parameters).map fun q => [⟨[], q.filters⟩]
  | insert _ body _ _ allowed =>
    (bodyRows body).map (List.map fun row => ⟨memberSlots "VALUES" allowed .ofColumnValue row, []⟩)
  | update _ body filters _ =>
    .ok [⟨memberSlots "=" none .ofColumnValue (membersOf body), filters⟩]
  | delete _ filters _ => .ok [⟨[], filters⟩]
  | call _ arguments => .ok [⟨memberSlots ":=" none .ofArgument arguments, []⟩]

/-- The places of the statements are those of their needs. -/
theorem binds_statements {c : Compilation} {compiled : List Statement}
    (ok : c.statements = .ok compiled) : ∃ needs, c.needs = .ok needs ∧
      List.Forall₂ (fun s need => Binds s.template need.slots) compiled needs := by
  cases c with
  | select table parameters maxRows resolver =>
    obtain ⟨q, read, rfl⟩ := map_eq_ok_iff.1 ok
    have binds := (q.withMaxRows maxRows).binds_selectStatement resolver
    have filters : (q.withMaxRows maxRows).filters = q.filters := by cases maxRows <;> rfl
    rw [filters] at binds
    exact ⟨_, map_eq_ok_iff.2 ⟨q, read, rfl⟩, .cons binds .nil⟩
  | count table parameters =>
    obtain ⟨q, read, rfl⟩ := map_eq_ok_iff.1 ok
    exact ⟨_, map_eq_ok_iff.2 ⟨q, read, rfl⟩, .cons q.binds_countStatement .nil⟩
  | insert table body returning upsert allowed =>
    obtain ⟨rows, read, written⟩ := bind_eq_ok_iff.1 ok
    refine ⟨_, map_eq_ok_iff.2 ⟨rows, read, rfl⟩, List.forall₂_map_right_iff.2 ?_⟩
    refine (mapM_eq_ok_iff.1 written).flip.imp fun s row made => ?_
    obtain ⟨assignments, assigned, rfl⟩ := map_eq_ok_iff.1 made
    have binds := binds_insertRow table returning upsert assignments
    rw [← memberSlots_of_rowAssignments "VALUES" assigned] at binds
    rwa [Need.slots, List.flatMap_nil, List.append_nil]
  | update table body filters returning =>
    obtain ⟨s, written, rfl⟩ := map_eq_ok_iff.1 ok
    refine ⟨_, rfl, .cons ?_ .nil⟩
    cases body with
    | obj row =>
      cases row with
      | nil => simp [Sql.update] at written
      | cons member rest =>
        rw [update_row] at written
        obtain ⟨assignments, assigned, rfl⟩ := map_eq_ok_iff.1 written
        rw [Need.slots, membersOf, memberSlots_of_rowAssignments "=" assigned]
        exact binds_updateOf table filters returning assignments
    | null | bool | int | float | str | arr => simp [Sql.update] at written
  | delete table filters returning =>
    obtain ⟨s, written, rfl⟩ := map_eq_ok_iff.1 ok
    refine ⟨_, rfl, .cons ?_ .nil⟩
    cases filters with
    | nil => simp [Sql.delete] at written
    | cons f rest =>
      obtain rfl := Except.ok.inj written
      exact Statement.binds_writing .delete ((binds_whereClause _).after (inert_of_check rfl)) returning
  | call function arguments =>
    obtain ⟨s, written, rfl⟩ := map_eq_ok_iff.1 ok
    rw [call_eq] at written
    obtain ⟨name, -, written⟩ := bind_eq_ok_iff.1 written
    obtain ⟨passed, read, rfl⟩ := map_eq_ok_iff.1 written
    refine ⟨_, rfl, .cons ?_ .nil⟩
    rw [Need.slots, List.flatMap_nil, List.append_nil]
    exact binds_callOf name read

end Compilation

end Gateway.Sql
