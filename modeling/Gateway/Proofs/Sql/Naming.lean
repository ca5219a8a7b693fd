import Gateway.Proofs.Sql.Alignment
import Gateway.Proofs.Sql.Hygiene

/-!
# What a writing statement names

An insert names columns in the brackets behind its table and in its conflict clause, an update names the
columns that it sets, a call the arguments that it passes. The readers of §1 find these names in the tokens
of a text, whatever the text was made from.

The keys of a JSON object differ as texts, but a name is read without regard to case and with a hyphen for
an underscore, so two keys may be `Alike`. `names_nodup_iff` says that a statement names nothing twice
exactly when no two of the keys that it writes are alike. A conflict clause sets the inserted columns
outside its target in any case, as often as they are inserted.
-/

namespace Gateway.Sql

open Template (Passes Yields listed names paren passes_of_check passes_listed read_sql tokens
  tokens_append tokens_paren joined_cons)

/-! ## §1 — reading names -/

/-- The name that a token is. -/
def Token.name? {α : Type} : Token α → Option String
  | name n => some n
  | _ => none

/-- The name that stands here, directly in front of a mark. -/
def nameBefore? (mark : String) : List (Token Param) → Option String
  | .name n :: .symbol s :: _ => if s = mark then some n else none
  | _ => none

/-- The names directly in front of a mark, from left to right. -/
def namesBefore (mark : String) : List (Token Param) → List String
  | [] => []
  | token :: rest => (nameBefore? mark (token :: rest)).toList ++ namesBefore mark rest

/-- The columns of an insert; it names none when it inserts default values. -/
def insertedColumns : List (Token Param) → List String
  | .word "INSERT" :: .word "INTO" :: .name _ :: .symbol "(" :: rest =>
    (splitClosing 0 rest).1.filterMap Token.name?
  | _ => []

/-- What an insert does with a row that collides. -/
structure Collision where
  /-- The columns in which it collides. -/
  target : List String
  /-- The columns that are set from the row; nothing when the row is left alone. -/
  merged : Option (List String)
deriving DecidableEq, Repr

/-- What is done with a row that collides, read from behind the `CONFLICT`. -/
def Collision.read? : List (Token Param) → Option Collision
  | .symbol "(" :: rest =>
    let target := (splitClosing 0 rest).1.filterMap Token.name?
    match (splitClosing 0 rest).2 with
    | .word "DO" :: .word "NOTHING" :: _ => some ⟨target, none⟩
    | .word "DO" :: .word "UPDATE" :: .word "SET" :: updates =>
      some ⟨target, some (namesBefore "=" updates)⟩
    | _ => none
  | _ => none

/-- The conflict clause of an insert, if it has one. -/
def collision? (tokens : List (Token Param)) : Option Collision :=
  match (splitWord ["CONFLICT"] 0 tokens).2 with
  | [] => none
  | _ :: rest => Collision.read? rest

/-- The columns that an update sets. -/
def updatedColumns (tokens : List (Token Param)) : List String :=
  match (splitWord ["SET"] 0 tokens).2 with
  | [] => []
  | _ :: rest => namesBefore "=" (splitWord ["WHERE", "RETURNING"] 0 rest).1

/-- The arguments that a call passes. -/
def passedArguments (tokens : List (Token Param)) : List String :=
  namesBefore ":=" tokens

/-! ## §2 — keys -/

/-- Two keys are spellings of one name. -/
def Alike (k l : String) : Prop :=
  k.toList.map canonicalChar = l.toList.map canonicalChar

/-- The name under which a key is written, if it is a name that is allowed. -/
def writtenName? (allowed : Option (List Identifier)) (key : String) : Option String :=
  (Identifier.read? key.toList).bind fun n =>
    if allowed.all (·.contains n) then some n.text else none

/-- The names under which the members of a body are written, in order. -/
def writtenNames (allowed : Option (List Identifier)) (row : List (String × Json)) : List String :=
  row.filterMap fun member => writtenName? allowed member.1

/-- **No two of the keys that are written are alike.** -/
def KeysApart (allowed : Option (List Identifier)) (row : List (String × Json)) : Prop :=
  (row.filter fun member => (writtenName? allowed member.1).isSome).Pairwise
    fun a b => ¬ Alike a.1 b.1

theorem writtenName?_eq {allowed : Option (List Identifier)} {key text : String}
    (h : writtenName? allowed key = some text) :
    text = String.ofList (key.toList.map canonicalChar) := by
  obtain ⟨n, read, chosen⟩ := Option.bind_eq_some_iff.1 h
  unfold Identifier.read? at read
  split at read
  · obtain rfl := Option.some.inj read
    split at chosen
    · exact (Option.some.inj chosen).symm
    · cases chosen
  · cases read

/-- **Names are written twice exactly when keys are alike.** -/
theorem nodup_writtenNames_iff {allowed : Option (List Identifier)} {row : List (String × Json)} :
    (writtenNames allowed row).Nodup ↔ KeysApart allowed row := by
  have spelled : writtenNames allowed row =
      (row.filter fun member => (writtenName? allowed member.1).isSome).map fun member =>
        String.ofList (member.1.toList.map canonicalChar) := by
    unfold writtenNames
    induction row with
    | nil => rfl
    | cons member rest ih =>
      rw [List.filterMap_cons, List.filter_cons]
      cases written : writtenName? allowed member.1 with
      | none => exact ih
      | some text =>
        rw [writtenName?_eq written]
        exact congrArg (_ :: ·) ih
  rw [spelled, List.Nodup, List.pairwise_map]
  refine Iff.of_eq (congrArg (List.Pairwise · _) (funext fun a => funext fun b => propext ?_))
  rw [ne_eq, String.ofList_inj]
  rfl

/-- The columns of a row are the names of its keys. -/
theorem writtenNames_of_rowAssignments {allowed : Option (List Identifier)}
    {row : List (String × Json)} {assignments : List Assignment}
    (h : rowAssignments allowed row = .ok assignments) :
    writtenNames allowed row = assignments.map (·.column.text) := by
  have slots := congrArg (List.map Slot.owner) (memberSlots_of_rowAssignments "" h)
  rw [List.map_map] at slots
  refine Eq.trans ?_ slots
  rw [memberSlots, List.map_filterMap]
  refine congrArg (List.filterMap · row) (funext fun member => ?_)
  unfold writtenName? memberSlot
  rw [Option.map_bind]
  refine congrArg (Option.bind _) (funext fun n => ?_)
  show _ = Option.map Slot.owner (if _ then _ else _)
  split <;> rfl

/-! ## §3 — what the readers find -/

/-- The names of a list of columns are read back from it. -/
theorem names_tokens (columns : List Identifier) :
    (names columns).tokens.filterMap Token.name? = columns.map (·.text) := by
  cases columns with
  | nil => rfl
  | cons column rest =>
    have further : ∀ rest : List Identifier, (tokens ((rest.map fun c => [.name c]).flatMap
        (Template.commaBlank ++ ·))).filterMap Token.name? = rest.map (·.text) := by
      intro rest
      induction rest with
      | nil => rfl
      | cons c more ih => exact congrArg (c.text :: ·) ih
    rw [names, List.map_cons, listed, joined_cons, tokens_append, List.filterMap_append, further]
    rfl

theorem nested_names (columns : List Identifier) :
    Nested Token.isAny (names columns).tokens := by
  refine Nested.listed rfl fun t ht => ?_
  obtain ⟨c, -, rfl⟩ := List.mem_map.1 ht
  exact .of_check rfl

/-- A list of columns in brackets is read up to the bracket that closes it. -/
theorem names_splitClosing (columns : List Identifier) (rest : List (Token Param)) :
    ((splitClosing 0 ((names columns).tokens ++ .symbol ")" :: rest)).1.filterMap Token.name?,
      (splitClosing 0 ((names columns).tokens ++ .symbol ")" :: rest)).2) =
      (columns.map (·.text), rest) := by
  rw [(nested_names columns).splitClosing_closed, names_tokens]

/-- What comes behind does not make the last name one in front of the mark. -/
def EndsName (mark : String) (rest : List (Token Param)) : Prop :=
  rest.head? ≠ some (.symbol mark)

/-- A value behind a name and a mark leaves the name in front of the mark. -/
theorem Binding.yields_name (b : Binding) (name : Identifier) {s : Symbol}
    (h : s = .equal ∨ s = .assign) :
    Yields (namesBefore s.text) (EndsName s.text)
      (([.name name, .space, .symbol s, .space] : Template) ++ b.template) [name.text] := by
  intro rest _
  obtain ⟨value, cast⟩ := b
  rcases h with rfl | rfl <;> cases cast <;> rfl

/-- A column that takes the value of the row is in front of the equality sign, and not behind it. -/
theorem yields_merged (c : Identifier) :
    Yields (namesBefore "=") (EndsName "=")
      [.name c, .space, .symbol .equal, .space, .word .excluded, .symbol .dot, .name c] [c.text] := by
  intro rest ends
  have last : nameBefore? "=" (.name c.text :: rest) = none := by
    unfold nameBefore?
    split
    next s _ same =>
      obtain ⟨-, rfl⟩ := List.cons.inj same
      exact if_neg fun mark => ends (by rw [mark]; rfl)
    next => rfl
  show c.text :: ((nameBefore? "=" (.name c.text :: rest)).toList ++ namesBefore "=" rest) = _
  rw [last]
  rfl

/-- A list of assignments is read name by name. -/
theorem yields_listed {mark : String} (other : mark ≠ ",") {α : Type} {l : List α}
    {write : α → Template} {name : α → Identifier}
    (each : ∀ a ∈ l, Yields (namesBefore mark) (EndsName mark) (write a) [(name a).text]) :
    Yields (namesBefore mark) (EndsName mark) (listed (l.map write))
      (l.map fun a => (name a).text) := by
  have found : List.Forall₂ (Yields (namesBefore mark) (EndsName mark)) (l.map write)
      (l.map fun a => [(name a).text]) :=
    List.forall₂_map_left_iff.2 (List.forall₂_map_right_iff.2 (List.forall₂_same.2 each))
  have all := Yields.listed (fun rest same => other (Token.symbol.inj (Option.some.inj same)).symm)
    (fun rest => rfl) found
  rwa [← List.flatMap_def, ← List.map_eq_flatMap] at all

/-! ## §4 — statements -/

/-- What a statement ends with: the words that ask for the rows, or nothing. -/
def returningTail (returning : Bool) : Template :=
  if returning then [.space, .word .returning, .space, .symbol .star] else []

theorem Statement.template_writing (kind : StatementKind) (t : Template) (returning : Bool) :
    (Statement.writing kind t returning).template = t ++ returningTail returning := by
  cases returning with
  | false => exact (List.append_nil t).symm
  | true => rfl

theorem returningTail_ends (mark : String) (returning : Bool) :
    EndsName mark (returningTail returning).tokens ∧
      namesBefore mark (returningTail returning).tokens = [] := by
  cases returning with
  | false => exact ⟨by simp [EndsName, returningTail, tokens], rfl⟩
  | true => exact ⟨by simp [EndsName, returningTail, tokens, Piece.token?, List.filterMap], rfl⟩

/-- The insert of a row, up to its conflict clause. -/
def insertedRow (table : Identifier) (row : List Assignment) : Template :=
  [.word .insert, .space, .word .into, .space, .name table, .space] ++
    if row.isEmpty then [.word .default, .space, .word .values]
    else
      paren (names (row.map (·.column))) ++ [.space, .word .values, .space]
        ++ paren (listed (row.map fun a => a.binding.template))

/-- The conflict clause of an insert, if it has a conflict mode. -/
def conflictClause (upsert : Option Upsert) (columns : List Identifier) : Template :=
  (upsert.map fun u => u.template columns).getD []

theorem tokens_insertRow (table : Identifier) (returning : Bool) (upsert : Option Upsert)
    (row : List Assignment) :
    (insertRow table returning upsert row).template.tokens = (insertedRow table row).tokens
      ++ ((conflictClause upsert (row.map (·.column))).tokens
        ++ (returningTail returning).tokens) := by
  rw [← tokens_append, ← tokens_append, ← List.append_assoc]
  exact congrArg tokens (Statement.template_writing ..)

/-- **The columns of an insert** are those of the row. -/
theorem insertedColumns_insertRow (table : Identifier) (returning : Bool) (upsert : Option Upsert)
    (row : List Assignment) :
    insertedColumns (insertRow table returning upsert row).template.tokens =
      row.map (·.column.text) := by
  rw [tokens_insertRow]
  generalize (conflictClause upsert _).tokens ++ (returningTail returning).tokens = behind
  cases row with
  | nil => rfl
  | cons a rest =>
    let columns := (a :: rest).map (·.column)
    let values : List (Token Param) := tokens [.space, .word .values, .space]
      ++ (paren (listed ((a :: rest).map fun a => a.binding.template))).tokens
    have shape : (insertedRow table (a :: rest)).tokens ++ behind =
        .word "INSERT" :: .word "INTO" :: .name table.text :: .symbol "(" ::
          ((names columns).tokens ++ .symbol ")" :: (values ++ behind)) := by
      rw [insertedRow, tokens_append, List.append_assoc]
      show _ ++ (tokens (paren _ ++ _ ++ paren _) ++ behind) = _
      rw [tokens_append, tokens_append, tokens_paren]
      simp only [List.append_assoc, List.cons_append]
      rfl
    rw [shape]
    refine (congrArg Prod.fst (names_splitClosing columns (values ++ behind))).trans ?_
    exact List.map_map

/-- What a conflict clause says for these columns. -/
def Upsert.collision (u : Upsert) (columns : List Identifier) : Collision where
  target := u.target.map (·.text)
  merged :=
    if u.resolution = .ignoreDuplicates ∨ u.merged columns = [] then none
    else some ((u.merged columns).map (·.text))

/-- **A conflict clause is read back.** -/
theorem Upsert.read?_template (u : Upsert) (columns : List Identifier) {rest : List (Token Param)}
    (ends : EndsName "=" rest) (none : namesBefore "=" rest = []) :
    ∃ clause, (u.template columns).tokens ++ rest = .word "ON" :: .word "CONFLICT" :: clause ∧
      Collision.read? clause = some (u.collision columns) := by
  have found (behind : List (Token Param)) :=
    Prod.mk.inj (names_splitClosing u.target (.word "DO" :: behind))
  have head (t : Template) : tokens (([.space, .word .on, .space, .word .conflict, .space] : Template)
      ++ paren (names u.target) ++ ([.space, .word .doWord, .space] : Template) ++ t) ++ rest =
      .word "ON" :: .word "CONFLICT" :: .symbol "(" ::
        ((names u.target).tokens ++ .symbol ")" :: .word "DO" :: (t.tokens ++ rest)) := by
    rw [tokens_append, tokens_append, tokens_append, tokens_paren]
    simp only [List.append_assoc, List.cons_append]
    rfl
  unfold template collision
  simp only
  split
  next alone =>
    refine ⟨_, head _, ?_⟩
    rw [Collision.read?, (found _).1, (found _).2]
    rfl
  next merges =>
    rw [List.append_assoc]
    refine ⟨_, head _, ?_⟩
    have updates := yields_listed (by decide : "=" ≠ ",") (fun c _ => yields_merged c)
      (l := u.merged columns) rest ends
    rw [none, List.append_nil] at updates
    rw [Collision.read?, (found _).1, (found _).2, ← updates]
    rfl

theorem passes_insertedRow (table : Identifier) (row : List Assignment) :
    Passes ["CONFLICT"] 0 (insertedRow table row) := by
  refine (passes_of_check rfl).append ?_
  split
  · exact passes_of_check rfl
  · have values : Passes ["CONFLICT"] 1 (listed (row.map fun a => a.binding.template)) := by
      refine passes_listed fun t ht => ?_
      obtain ⟨⟨-, value, cast⟩, -, rfl⟩ := List.mem_map.1 ht
      cases cast <;> exact passes_of_check rfl
    exact ((Passes.paren ((nested_names _).passes _)).append (passes_of_check rfl)).append values.paren

/-- **The conflict clause of an insert** is that of the conflict mode for the columns of the row. -/
theorem collision?_insertRow (table : Identifier) (returning : Bool) (upsert : Option Upsert)
    (row : List Assignment) :
    collision? (insertRow table returning upsert row).template.tokens =
      upsert.map fun u => u.collision (row.map (·.column)) := by
  obtain ⟨ends, none⟩ := returningTail_ends "=" returning
  unfold collision?
  rw [tokens_insertRow, passes_insertedRow table row 0 (Nat.le_refl 0)]
  cases upsert with
  | none => cases returning <;> rfl
  | some u =>
    obtain ⟨clause, shape, read⟩ := u.read?_template (row.map (·.column)) ends none
    rw [conflictClause, Option.map_some, Option.getD_some, shape]
    exact read

/-- **The columns that an update sets** are those of the row. -/
theorem updatedColumns_updateOf (table : Identifier) (filters : List Filter) (returning : Bool)
    {row : List Assignment} (values : ∀ a ∈ row, ∃ value, a.binding = .ofColumnValue value) :
    updatedColumns (updateOf table filters returning row).template.tokens =
      row.map (·.column.text) := by
  let set : Template := listed (row.map fun a =>
    [.name a.column, .space, .symbol .equal, .space] ++ a.binding.template)
  have passes : Passes ["WHERE", "RETURNING"] 0 set := by
    refine passes_listed fun t ht => ?_
    obtain ⟨a, ha, rfl⟩ := List.mem_map.1 ht
    obtain ⟨value, bound⟩ := values a ha
    rw [bound]
    cases value <;> exact passes_of_check rfl
  -- Behind the assignments there is nothing, or one of the words that end them.
  have stops : (splitWord ["WHERE", "RETURNING"] 0
      (tokens (whereClause filters ++ returningTail returning))).1 = [] := by
    cases filters <;> cases returning <;> rfl
  have shape : (updateOf table filters returning row).template.tokens =
      .word "UPDATE" :: .name table.text :: .word "SET" ::
        (set.tokens ++ tokens (whereClause filters ++ returningTail returning)) := by
    rw [updateOf, Statement.template_writing, List.append_assoc, List.append_assoc, tokens_append,
      tokens_append]
    rfl
  have names := yields_listed (by decide : "=" ≠ ",") (l := row)
    (fun a _ => a.binding.yields_name a.column (.inl rfl)) [] (by simp [EndsName])
  rw [shape]
  show namesBefore "=" (splitWord ["WHERE", "RETURNING"] 0 (set.tokens ++ _)).1 = _
  rw [passes 0 (Nat.le_refl 0), stops]
  exact names.trans (List.append_nil _)

/-- **The arguments that a call passes** are those that it is given. -/
theorem passedArguments_callOf (function : Identifier) {arguments : List (String × Json)}
    {passed : List Template} (h : arguments.mapM readArgument = .ok passed) :
    passedArguments (callOf function passed).template.tokens = writtenNames none arguments := by
  have pairs := mapM_eq_ok_iff.1 h
  have each : List.Forall₂ (Yields (namesBefore ":=") (EndsName ":=")) passed
      (arguments.map fun argument => (writtenName? none argument.1).toList) := by
    refine List.forall₂_map_right_iff.2 (pairs.flip.imp fun t argument read => ?_)
    obtain ⟨name, found, rfl⟩ := map_eq_ok_iff.1 read
    rw [writtenName?, Identifier.read_eq_ok_iff.1 found]
    exact (Binding.ofArgument argument.2).yields_name name (.inr rfl)
  have names := Yields.listed (fun rest same => absurd (Option.some.inj same) (by decide))
    (fun rest => rfl) each [.symbol ")"] (by simp [EndsName])
  have gathered : (arguments.map fun argument => (writtenName? none argument.1).toList).flatten =
      writtenNames none arguments := by
    rw [← List.flatMap_def, writtenNames, List.filterMap_eq_flatMap_toList]
  rw [gathered] at names
  rw [callOf, tokens_append, tokens_paren]
  exact names.trans (List.append_nil _)

/-! ## §5 — every statement that writes -/

/-- **The names found in a statement are those of the keys of a body**, and they are pairwise distinct
exactly when no two of the keys are alike. -/
structure NamesKeys (found : List String) (allowed : Option (List Identifier))
    (row : List (String × Json)) : Prop where
  written : found = writtenNames allowed row
  once : found.Nodup ↔ KeysApart allowed row

theorem NamesKeys.of_eq {found : List String} {allowed : Option (List Identifier)}
    {row : List (String × Json)} (h : found = writtenNames allowed row) :
    NamesKeys found allowed row :=
  ⟨h, h ▸ nodup_writtenNames_iff⟩

/-- **A conflict clause follows the conflict mode.** It sets the inserted columns outside its target, in
their order; where there is none, or duplicates are ignored, it does nothing. -/
structure Collision.Follows (c : Collision) (u : Upsert) (inserted : List String) : Prop where
  target : c.target = u.target.map (·.text)
  ignored : u.resolution = .ignoreDuplicates → c.merged = none
  covered : inserted.filter (· ∉ c.target) = [] → c.merged = none
  merged : u.resolution = .mergeDuplicates → inserted.filter (· ∉ c.target) ≠ [] →
    c.merged = some (inserted.filter (· ∉ c.target))

theorem Upsert.follows_collision (u : Upsert) (columns : List Identifier) :
    (u.collision columns).Follows u (columns.map (·.text)) := by
  have outside : (columns.map (·.text)).filter (· ∉ u.target.map (·.text)) =
      (u.merged columns).map (·.text) := by
    rw [Upsert.merged, List.filter_map]
    refine congrArg (List.map _) (List.filter_congr fun c _ => ?_)
    have same : c.text ∈ u.target.map (·.text) ↔ c ∈ u.target :=
      List.mem_map_of_injective fun _ _ => Identifier.text_inj.1
    rw [Function.comp_apply, Bool.eq_iff_iff]
    simp [same]
  refine ⟨rfl, fun ignores => ?_, fun none => ?_, fun merges some => ?_⟩
  · exact if_pos (.inl ignores)
  · rw [collision, outside, List.map_eq_nil_iff] at none
    exact if_pos (.inr none)
  · rw [collision, outside, ne_eq, List.map_eq_nil_iff] at some
    rw [collision, outside]
    refine if_neg (not_or.2 ⟨?_, some⟩)
    rw [merges]
    decide

/-- **Nothing is named twice exactly where no two keys are alike.** Read from the texts of its statements,
an accepted insert names the columns of each row, and its conflict clause follows the conflict mode; an
update sets the columns of its body; a call passes its arguments. In each of them the names are pairwise
distinct exactly when no two of the keys that are written are spellings of one name. -/
theorem names_nodup_iff (table : Identifier) (body : Json) (returning : Bool) (upsert : Option Upsert)
    (allowed : Option (List Identifier)) (filters : List Filter) (function : String)
    (arguments : List (String × Json)) :
    (∀ compiled, insert table body returning upsert allowed = .ok compiled →
      ∃ rows, bodyRows body = .ok rows ∧ List.Forall₂ (fun s row => ∃ tokens,
        readTokens s.sql s.params = some tokens ∧
        NamesKeys (insertedColumns tokens) allowed row ∧
        (upsert = none → collision? tokens = none) ∧
        ∀ u, upsert = some u → ∃ c, collision? tokens = some c ∧
          c.Follows u (insertedColumns tokens)) compiled rows) ∧
    (∀ s, update table body filters returning = .ok s →
      ∃ row tokens, body = .obj row ∧ readTokens s.sql s.params = some tokens ∧
        NamesKeys (updatedColumns tokens) none row) ∧
    ∀ s, call function arguments = .ok s →
      ∃ tokens, readTokens s.sql s.params = some tokens ∧
        NamesKeys (passedArguments tokens) none arguments := by
  refine ⟨fun compiled ok => ?_, fun s ok => ?_, fun s ok => ?_⟩
  · obtain ⟨rows, read, written⟩ := bind_eq_ok_iff.1 ok
    refine ⟨rows, read, List.forall₂_iff_zip.2 ⟨?_, fun {s row} mem => ?_⟩⟩
    · exact (mapM_eq_ok_iff.1 written).length_eq.symm
    · have made := List.forall₂_zip (mapM_eq_ok_iff.1 written).flip mem
      obtain ⟨assignments, assigned, rfl⟩ := map_eq_ok_iff.1 made
      have columns := insertedColumns_insertRow table returning upsert assignments
      have clause := collision?_insertRow table returning upsert assignments
      refine ⟨_, read_sql (legible_insert ok _ (List.of_mem_zip mem).1), .of_eq ?_, ?_, ?_⟩
      · exact columns.trans (writtenNames_of_rowAssignments assigned).symm
      · rintro rfl
        exact clause
      · rintro u rfl
        have follows := u.follows_collision (assignments.map (·.column))
        rw [List.map_map] at follows
        rw [columns]
        exact ⟨_, clause, follows⟩
  · have legible := legible_update ok
    cases body with
    | obj row =>
      cases row with
      | nil => simp [update] at ok
      | cons member rest =>
        rw [update_row] at ok
        obtain ⟨assignments, assigned, rfl⟩ := map_eq_ok_iff.1 ok
        refine ⟨_, _, rfl, read_sql legible, .of_eq ?_⟩
        have values := fun a ha => exists_binding_eq assigned (a := a) ha
        exact (updatedColumns_updateOf table filters returning values).trans
          (writtenNames_of_rowAssignments assigned).symm
    | null | bool | int | float | str | arr => simp [update] at ok
  · have legible := legible_call ok
    rw [call_eq] at ok
    obtain ⟨name, -, written⟩ := bind_eq_ok_iff.1 ok
    obtain ⟨passed, read, rfl⟩ := map_eq_ok_iff.1 written
    exact ⟨_, read_sql legible, .of_eq (passedArguments_callOf name read)⟩

/-- A merging insert, an update and a call whose keys are apart. -/
theorem names_nodup_iff_apart :
    let row : List (String × Json) := [("Display-Name", .str "x"), ("id", .int 1)]
    KeysApart none row ∧
    (∃ s tokens c,
      insert ⟨"users", by decide⟩ (.obj row) true (some ⟨.mergeDuplicates, []⟩) none = .ok [s] ∧
      readTokens s.sql s.params = some tokens ∧ NamesKeys (insertedColumns tokens) none row ∧
      collision? tokens = some c ∧ c.Follows ⟨.mergeDuplicates, []⟩ (insertedColumns tokens)) ∧
    (∃ s tokens, update ⟨"users", by decide⟩ (.obj row) [] true = .ok s ∧
      readTokens s.sql s.params = some tokens ∧ NamesKeys (updatedColumns tokens) none row) ∧
    ∃ s tokens, call "rename" row = .ok s ∧
      readTokens s.sql s.params = some tokens ∧ NamesKeys (passedArguments tokens) none row := by
  intro row
  let assigned : List Assignment :=
    [⟨⟨"display_name", by decide⟩, .ofColumnValue (.str "x")⟩, ⟨.id, .ofColumnValue (.int 1)⟩]
  obtain ⟨inserts, updates, calls⟩ := names_nodup_iff ⟨"users", by decide⟩ (.obj row) true
    (some ⟨.mergeDuplicates, []⟩) none [] "rename" row
  refine ⟨nodup_writtenNames_iff.1 (by decide +kernel), ?_, ?_, ?_⟩
  · have inserted : insert ⟨"users", by decide⟩ (.obj row) true (some ⟨.mergeDuplicates, []⟩) none =
        .ok [insertRow ⟨"users", by decide⟩ true (some ⟨.mergeDuplicates, []⟩) assigned] := by
      rfl
    obtain ⟨rows, read, each⟩ := inserts _ inserted
    obtain rfl := Except.ok.inj read
    obtain ⟨tokens, lexed, named, -, collides⟩ := (List.forall₂_cons.1 each).1
    obtain ⟨c, clause, follows⟩ := collides _ rfl
    exact ⟨_, tokens, c, inserted, lexed, named, clause, follows⟩
  · have updated : update ⟨"users", by decide⟩ (.obj row) [] true = .ok
        (updateOf ⟨"users", by decide⟩ [] true assigned) := by
      rfl
    obtain ⟨_, tokens, same, lexed, named⟩ := updates _ updated
    obtain rfl := Json.obj.inj same
    exact ⟨_, tokens, updated, lexed, named⟩
  · have called : call "rename" row = .ok (callOf ⟨"rename", by decide⟩
        (row.map fun argument => [.name ((Identifier.read? argument.1.toList).getD .id), .space,
          .symbol .assign, .space] ++ (Binding.ofArgument argument.2).template)) := by rfl
    obtain ⟨tokens, lexed, named⟩ := calls _ called
    exact ⟨_, tokens, called, lexed, named⟩

/-- **Keys that differ in case alone are written twice**: as columns of an insert and of its merge, as
columns of an update, and as arguments. -/
theorem names_repeated :
    let row : List (String × Json) := [("A", .int 1), ("a", .int 2)]
    let merge : Upsert := ⟨.mergeDuplicates, []⟩
    (∃ s tokens, insert ⟨"t", by decide⟩ (.obj row) false (some merge) none = .ok [s] ∧
      readTokens s.sql s.params = some tokens ∧ insertedColumns tokens = ["a", "a"] ∧
      collision? tokens = some ⟨["id"], some ["a", "a"]⟩) ∧
    (∃ s tokens, update ⟨"t", by decide⟩ (.obj row) [] false = .ok s ∧
      readTokens s.sql s.params = some tokens ∧ updatedColumns tokens = ["a", "a"]) ∧
    ∃ s tokens, call "f" row = .ok s ∧
      readTokens s.sql s.params = some tokens ∧ passedArguments tokens = ["a", "a"] := by
  intro row merge
  let a : Identifier := ⟨"a", by decide⟩
  let columns : List Assignment := [⟨a, .ofColumnValue (.int 1)⟩, ⟨a, .ofColumnValue (.int 2)⟩]
  let passed : List Template := row.map fun argument =>
    [.name a, .space, .symbol .assign, .space] ++ (Binding.ofArgument argument.2).template
  have inserted : insert ⟨"t", by decide⟩ (.obj row) false (some merge) none =
      .ok [insertRow ⟨"t", by decide⟩ false (some merge) columns] := by rfl
  have updated : update ⟨"t", by decide⟩ (.obj row) [] false =
      .ok (updateOf ⟨"t", by decide⟩ [] false columns) := by rfl
  have called : call "f" row = .ok (callOf ⟨"f", by decide⟩ passed) := by rfl
  exact ⟨⟨_, _, inserted, read_sql (legible_insert inserted _ List.mem_cons_self), rfl, rfl⟩,
    ⟨_, _, updated, read_sql (legible_update updated), rfl⟩,
    ⟨_, _, called, read_sql (legible_call called), rfl⟩⟩

end Gateway.Sql
