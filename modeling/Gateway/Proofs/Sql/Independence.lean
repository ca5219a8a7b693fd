import Gateway.Proofs.Except
import Gateway.Sql.Call
import Gateway.Sql.Change
import Gateway.Sql.Query

/-!
# The text does not depend on the values

Two requests that differ only in the values they bind have statements of the same text. `blanked` takes
the values out of filters, queries and bodies; the `Statement.skeleton` of a statement is its template
without them, and determines its text (`sql_skeleton`). For every construction there is one lemma: its
skeleton is that of the blanked request.
-/

namespace Gateway.Sql

open Template (paren listed joined)

/-! ## §1 — skeletons -/

/-- A template without its values. -/
def Template.skeleton (t : Template) : Template :=
  t.map Template.blanked

namespace Template

@[simp] theorem skeleton_append (s t : Template) : (s ++ t).skeleton = s.skeleton ++ t.skeleton :=
  List.map_append

@[simp] theorem skeleton_cons (p : Piece) (t : Template) :
    skeleton (p :: t) = blanked p :: t.skeleton := rfl

@[simp] theorem skeleton_nil : skeleton [] = [] := rfl

@[simp] theorem skeleton_paren (t : Template) : (paren t).skeleton = paren t.skeleton := by
  simp [paren, blanked]

theorem skeleton_joined (separator : Template) (parts : List Template) :
    (joined separator parts).skeleton = joined separator.skeleton (parts.map skeleton) := by
  induction parts with
  | nil => rfl
  | cons part rest ih =>
    cases rest with
    | nil => simp [joined]
    | cons part' rest =>
      simp only [joined, List.intercalate_cons_cons, List.map_cons, skeleton_append] at ih ⊢
      rw [ih]

theorem skeleton_listed (parts : List Template) :
    (listed parts).skeleton = listed (parts.map skeleton) :=
  skeleton_joined _ parts

end Template

/-- A statement without its values. -/
def Statement.skeleton (s : Statement) : Template :=
  s.template.skeleton

/-- **The text of a statement is that of its skeleton.** -/
theorem Statement.sql_skeleton (s : Statement) : Template.sql s.skeleton = s.sql := by
  refine Template.write_congr ?_ 1
  rw [skeleton, Template.skeleton, List.map_map]
  apply List.map_congr_left
  intro p _
  cases p <;> rfl

/-! ## §2 — filters without their values -/

/-- A predicate without its values; how many there are stays. -/
def Predicate.blanked : Predicate → Predicate
  | compare op _ => .compare op ""
  | is value => .is value
  | oneOf items => .oneOf (items.map fun _ => "")
  | search mode language _ => .search mode language ""

/-- A condition without its values. -/
def Condition.blanked (c : Condition) : Condition :=
  { c with predicate := c.predicate.blanked }

namespace Filter

mutual

/-- A filter without its values. -/
def blanked : Filter → Filter
  | condition c => .condition c.blanked
  | group joint negated members => .group joint negated (blankedAll members)

/-- Filters without their values. -/
def blankedAll : List Filter → List Filter
  | [] => []
  | f :: rest => f.blanked :: blankedAll rest

end

end Filter

theorem Predicate.skeleton_template (p : Predicate) (column : Identifier) :
    (p.template column).skeleton = (p.blanked.template column).skeleton := by
  cases p with
  | compare op value => cases op <;> rfl
  | is value => rfl
  | oneOf items =>
    cases items with
    | nil => rfl
    | cons item items =>
      have holes (i : String) : Template.skeleton [.bound (some i)] = [.bound none] := rfl
      simp [template, blanked, Template.skeleton_listed, Function.comp_def, holes, Template.blanked]
  | search mode language query =>
    simp [template, blanked, Template.skeleton_listed, Template.blanked]

theorem Condition.skeleton_template (c : Condition) : c.template.skeleton = c.blanked.template.skeleton := by
  have clause := c.predicate.skeleton_template c.column
  unfold template
  show Template.skeleton (if c.negated then _ else _) = Template.skeleton (if c.negated then _ else _)
  cases c.negated with
  | false => exact clause
  | true => simpa [blanked] using congrArg paren clause

namespace Filter

theorem skeleton_groupTemplate (joint : Connective) (negated : Bool) {members others : List Template}
    (same : members.map Template.skeleton = others.map Template.skeleton) :
    (groupTemplate joint negated members).skeleton = (groupTemplate joint negated others).skeleton := by
  have inner : (paren (joined joint.separator members)).skeleton =
      (paren (joined joint.separator others)).skeleton := by
    rw [Template.skeleton_paren, Template.skeleton_paren, Template.skeleton_joined,
      Template.skeleton_joined, same]
  cases negated with
  | false => exact inner
  | true => exact congrArg (fun t => .word .notWord :: .space :: t) inner

mutual

/-- **The skeleton of a filter is that of the filter without its values.** -/
theorem skeleton_template : ∀ f : Filter, f.template.skeleton = f.blanked.template.skeleton
  | condition c => c.skeleton_template
  | group joint negated members =>
    skeleton_groupTemplate joint negated (skeleton_memberTemplates members)

theorem skeleton_memberTemplates : ∀ members : List Filter,
    (memberTemplates members).map Template.skeleton =
      (memberTemplates (blankedAll members)).map Template.skeleton
  | [] => rfl
  | condition c :: rest => by
    have here := congrArg paren c.skeleton_template
    rw [← Template.skeleton_paren, ← Template.skeleton_paren] at here
    have both := congrArg₂ List.cons here (skeleton_memberTemplates rest)
    exact both
  | group joint negated members :: rest => by
    have both := congrArg₂ List.cons (skeleton_template (group joint negated members))
      (skeleton_memberTemplates rest)
    exact both

end

end Filter

/-- Filters that differ only in their values make clauses of the same skeleton. -/
theorem skeleton_whereClause {filters others : List Filter}
    (same : filters.map Filter.blanked = others.map Filter.blanked) :
    (whereClause filters).skeleton = (whereClause others).skeleton := by
  have each (fs : List Filter) : (fs.map Filter.template).map Template.skeleton =
      (fs.map Filter.blanked).map fun f => f.template.skeleton := by
    rw [List.map_map, List.map_map]
    exact List.map_congr_left fun f _ => f.skeleton_template
  cases filters with
  | nil =>
    obtain rfl : others = [] := by simpa using same.symm
    rfl
  | cons f rest =>
    cases others with
    | nil => simp at same
    | cons g more =>
      rw [whereClause, whereClause, Template.skeleton_append, Template.skeleton_append,
        Template.skeleton_joined, Template.skeleton_joined, each, each, same]

/-! ## §3 — queries without their values -/

namespace Query

/-- A query without the values of its filters. -/
def blanked (q : Query) : Query :=
  { q with filters := q.filters.map Filter.blanked }

theorem skeleton_selectStatement {q q' : Query} (same : q.blanked = q'.blanked) (r : EmbedResolver) :
    (q.selectStatement r).skeleton = (q'.selectStatement r).skeleton := by
  obtain ⟨table, select, filters, order, limit, offset, onConflict, columns⟩ := q
  obtain ⟨table', select', filters', order', limit', offset', onConflict', columns'⟩ := q'
  obtain ⟨rfl, rfl, filtered, rfl, rfl, rfl, rfl, rfl⟩ := Query.mk.inj same
  simp only [Statement.skeleton, selectStatement, Template.skeleton_append,
    skeleton_whereClause filtered]
  rfl

theorem skeleton_countStatement {q q' : Query} (same : q.blanked = q'.blanked) :
    q.countStatement.skeleton = q'.countStatement.skeleton := by
  obtain ⟨table, select, filters, order, limit, offset, onConflict, columns⟩ := q
  obtain ⟨table', select', filters', order', limit', offset', onConflict', columns'⟩ := q'
  obtain ⟨rfl, rfl, filtered, rfl, rfl, rfl, rfl, rfl⟩ := Query.mk.inj same
  simp only [Statement.skeleton, countStatement, Template.skeleton_append,
    skeleton_whereClause filtered]

/-- A cap on the rows does not look at values. -/
theorem blanked_withMaxRows (q : Query) (maxRows : Option Nat) :
    (q.withMaxRows maxRows).blanked = q.blanked.withMaxRows maxRows := by
  cases maxRows <;> rfl

end Query

/-! ## §4 — bodies without their values -/

/-- A value of a body without what is bound of it, when it is a scalar. -/
def blankValue : Json → Json
  | .arr items => .arr items
  | .obj members => .obj members
  | _ => .null

/-- A row without its scalar values. -/
def blankRow (row : List (String × Json)) : List (String × Json) :=
  row.map fun (key, value) => (key, blankValue value)

/-- An item of a body without its scalar values, when it is a row. -/
def blankItem : Json → Json
  | .obj row => .obj (blankRow row)
  | other => other

/-- A body, one row or several, without its scalar values. -/
def blankBody : Json → Json
  | .arr items => .arr (items.map blankItem)
  | other => blankItem other

/-- What the text shows of an assignment: its column and its cast. -/
def Assignment.shape (a : Assignment) : Identifier × Option Word :=
  (a.column, a.binding.cast)

theorem Binding.skeleton_template {b b' : Binding} (same : b.cast = b'.cast) :
    b.template.skeleton = b'.template.skeleton := by
  unfold template
  rw [same]
  rfl

theorem cast_ofColumnValue_blankValue (value : Json) :
    (Binding.ofColumnValue (blankValue value)).cast = (Binding.ofColumnValue value).cast := by
  cases value <;> rfl

/-- The assignment that a member of a row makes. -/
def readAssignment (member : String × Json) : Except Rejection Assignment :=
  (Identifier.read member.1.toList).map fun c => ⟨c, .ofColumnValue member.2⟩

theorem rowAssignments_eq (allowed : Option (List Identifier)) (row : List (String × Json)) :
    rowAssignments allowed row = (row.mapM readAssignment).map
      (List.filter fun a => allowed.all fun columns => columns.contains a.column) := by
  have each : (fun (member : String × Json) => (do
      return (⟨← Identifier.read member.1.toList, .ofColumnValue member.2⟩ : Assignment) :
        Except Rejection Assignment)) = readAssignment := by
    funext member
    rw [readAssignment]
    cases Identifier.read member.1.toList <;> rfl
  show (row.mapM fun member => _) >>= _ = _
  rw [each]
  cases row.mapM readAssignment <;> rfl

/-- Which assignments are allowed shows in their shapes. -/
theorem map_shape_rowAssignments (allowed : Option (List Identifier)) (row : List (String × Json)) :
    (rowAssignments allowed row).map (List.map Assignment.shape) =
      (row.mapM fun member => (readAssignment member).map Assignment.shape).map
        (List.filter fun s => allowed.all fun columns => columns.contains s.1) := by
  rw [rowAssignments_eq, ← map_mapM]
  cases row.mapM readAssignment with
  | error e => rfl
  | ok all =>
    refine congrArg Except.ok ?_
    rw [List.filter_map]
    rfl

/-- **The shapes of a row** are those of the row without its values. -/
theorem shapes_rowAssignments (allowed : Option (List Identifier)) (row : List (String × Json)) :
    (rowAssignments allowed row).map (List.map Assignment.shape) =
      (rowAssignments allowed (blankRow row)).map (List.map Assignment.shape) := by
  rw [map_shape_rowAssignments, map_shape_rowAssignments, blankRow, List.mapM_map]
  refine congrArg (fun read => Except.map _ (List.mapM read row)) (funext fun (key, value) => ?_)
  simp only [Function.comp_apply, readAssignment]
  cases Identifier.read key.toList with
  | error e => rfl
  | ok c =>
    have cast := cast_ofColumnValue_blankValue value
    exact congrArg (fun cast => Except.ok (c, cast)) cast.symm

/-- What is written for assignments is the same when they have the same shapes. -/
theorem skeleton_assignments {row row' : List Assignment}
    (same : row.map Assignment.shape = row'.map Assignment.shape)
    (write : Identifier → Template) :
    (row.map fun a => Template.skeleton (write a.column ++ a.binding.template)) =
      row'.map fun a => Template.skeleton (write a.column ++ a.binding.template) := by
  have byShape (a : Assignment) : Template.skeleton (write a.column ++ a.binding.template) =
      Template.skeleton (write a.shape.1 ++ Binding.template ⟨none, a.shape.2⟩) := by
    rw [Template.skeleton_append, Template.skeleton_append]
    exact congrArg _ (Binding.skeleton_template rfl)
  have each (r : List Assignment) :
      (r.map fun a => Template.skeleton (write a.column ++ a.binding.template)) =
        (r.map Assignment.shape).map fun s =>
          Template.skeleton (write s.1 ++ Binding.template ⟨none, s.2⟩) := by
    rw [List.map_map]
    exact List.map_congr_left fun a _ => byShape a
  rw [each, each, same]

theorem skeleton_writing (kind : StatementKind) {t t' : Template} (same : t.skeleton = t'.skeleton)
    (returning : Bool) :
    (Statement.writing kind t returning).skeleton = (Statement.writing kind t' returning).skeleton := by
  cases returning with
  | false => exact same
  | true =>
    have ending := congrArg (· ++ Template.skeleton [.space, .word .returning, .space, .symbol .star]) same
    simpa only [Statement.skeleton, Statement.writing, if_true, Template.skeleton_append] using ending

/-- Rows of the same shapes make inserts of the same skeleton. -/
theorem skeleton_insertRow (table : Identifier) (returning : Bool) (upsert : Option Upsert)
    {row row' : List Assignment} (same : row.map Assignment.shape = row'.map Assignment.shape) :
    (insertRow table returning upsert row).skeleton =
      (insertRow table returning upsert row').skeleton := by
  have columns : row.map (·.column) = row'.map (·.column) := by
    have first := congrArg (List.map Prod.fst) same
    rwa [List.map_map, List.map_map] at first
  have empty : row.isEmpty = row'.isEmpty := by
    simpa using congrArg List.isEmpty same
  have bound := skeleton_assignments same fun _ => []
  simp only [List.nil_append] at bound
  refine skeleton_writing .insert ?_ returning
  simp only [Template.skeleton_append, columns, empty]
  cases row'.isEmpty with
  | true => rfl
  | false =>
    simp only [Bool.false_eq_true, if_false, Template.skeleton_append, Template.skeleton_paren,
      Template.skeleton_listed, List.map_map, Function.comp_def, bound]

/-- The row that an item of a body is. -/
def readRow : Json → Except Rejection (List (String × Json))
  | .obj row => .ok row
  | _ => .error (.invalidPayload .itemNotObject)

/-- **The rows of a body without its values** are its rows without theirs. -/
theorem bodyRows_blankBody (body : Json) :
    bodyRows (blankBody body) = (bodyRows body).map (List.map blankRow) := by
  cases body with
  | arr items =>
    cases items with
    | nil => rfl
    | cons item rest =>
      show ((item :: rest).map blankItem).mapM readRow = ((item :: rest).mapM readRow).map _
      rw [List.mapM_map, map_mapM]
      refine congrArg (List.mapM · (item :: rest)) (funext fun value => ?_)
      cases value <;> rfl
  | null | bool | int | float | str | obj => rfl

/-- **The inserts of a body have the skeletons of those of the body without its values.** -/
theorem skeleton_insert (table : Identifier) (body : Json) (returning : Bool)
    (upsert : Option Upsert) (allowed : Option (List Identifier)) :
    (insert table body returning upsert allowed).map (List.map Statement.skeleton) =
      (insert table (blankBody body) returning upsert allowed).map
        (List.map Statement.skeleton) := by
  rw [insert, insert, bodyRows_blankBody]
  cases bodyRows body with
  | error e => rfl
  | ok rows =>
    let write (row : List (String × Json)) : Except Rejection Statement :=
      (rowAssignments allowed row).map (insertRow table returning upsert)
    show (rows.mapM write).map _ = ((rows.map blankRow).mapM write).map _
    rw [List.mapM_map, map_mapM, map_mapM]
    refine congrArg (List.mapM · rows) (funext fun row => ?_)
    simp only [Function.comp_apply, write, map_map]
    exact map_eq_map_of_imp (shapes_rowAssignments allowed row) fun _ _ =>
      skeleton_insertRow table returning upsert

/-- The update that sets what a row assigns. -/
def updateOf (table : Identifier) (filters : List Filter) (returning : Bool) (row : List Assignment) :
    Statement :=
  .writing .update
    ([.word .update, .space, .name table, .space, .word .set, .space]
      ++ listed (row.map fun a => [.name a.column, .space, .symbol .equal, .space] ++ a.binding.template)
      ++ whereClause filters) returning

theorem update_row (table : Identifier) (member : String × Json) (rest : List (String × Json))
    (filters : List Filter) (returning : Bool) :
    update table (.obj (member :: rest)) filters returning =
      (rowAssignments none (member :: rest)).map (updateOf table filters returning) := by
  show (rowAssignments none (member :: rest) >>= fun row =>
    pure (updateOf table filters returning row)) = _
  cases rowAssignments none (member :: rest) <;> rfl

theorem skeleton_updateOf (table : Identifier) {filters filters' : List Filter}
    (filtered : filters.map Filter.blanked = filters'.map Filter.blanked) (returning : Bool)
    {row row' : List Assignment} (same : row.map Assignment.shape = row'.map Assignment.shape) :
    (updateOf table filters returning row).skeleton =
      (updateOf table filters' returning row').skeleton := by
  have set := skeleton_assignments same fun c => [.name c, .space, .symbol .equal, .space]
  refine skeleton_writing .update ?_ returning
  simp only [Template.skeleton_append, skeleton_whereClause filtered, Template.skeleton_listed,
    List.map_map, Function.comp_def]
  simp only [Template.skeleton_append] at set
  rw [set]

/-- **The update of a body has the skeleton of that of the body without its values.** -/
theorem skeleton_update (table : Identifier) (body : Json) {filters filters' : List Filter}
    (same : filters.map Filter.blanked = filters'.map Filter.blanked) (returning : Bool) :
    (update table body filters returning).map Statement.skeleton =
      (update table (blankBody body) filters' returning).map Statement.skeleton := by
  cases body with
  | obj row =>
    cases row with
    | nil => rfl
    | cons member rest =>
      have shapes := shapes_rowAssignments none (member :: rest)
      show _ = (update table (.obj ((member.1, blankValue member.2) :: blankRow rest)) filters'
        returning).map _
      rw [update_row, update_row, map_map, map_map]
      exact map_eq_map_of_imp shapes fun _ _ => skeleton_updateOf table same returning
  | null | bool | int | float | str | arr => rfl

theorem skeleton_delete (table : Identifier) {filters filters' : List Filter}
    (same : filters.map Filter.blanked = filters'.map Filter.blanked) (returning : Bool) :
    (delete table filters returning).map Statement.skeleton =
      (delete table filters' returning).map Statement.skeleton := by
  cases filters with
  | nil =>
    obtain rfl : filters' = [] := by simpa using same.symm
    rfl
  | cons f rest =>
    cases filters' with
    | nil => simp at same
    | cons g more =>
      refine congrArg Except.ok (skeleton_writing .delete ?_ returning)
      rw [Template.skeleton_append, Template.skeleton_append, skeleton_whereClause same]

/-- What the text shows of an argument: its name and its cast. -/
def argumentShape (argument : String × Json) : String × Option Word :=
  (argument.1, (Binding.ofArgument argument.2).cast)

/-- The passing of an argument by its name. -/
def readArgument (argument : String × Json) : Except Rejection Template :=
  (Identifier.read argument.1.toList).map fun name =>
    [.name name, .space, .symbol .assign, .space] ++ (Binding.ofArgument argument.2).template

/-- The call of a function with arguments that are passed. -/
def callOf (function : Identifier) (passed : List Template) : Statement where
  kind := .call
  template :=
    [.word .select, .space, .symbol .star, .space, .word .fromWord, .space, .name function]
      ++ paren (listed passed)

theorem call_eq (function : String) (arguments : List (String × Json)) :
    call function arguments =
      (Identifier.read function.toList >>= fun name =>
        (arguments.mapM readArgument).map (callOf name)) := by
  have each : (fun (argument : String × Json) => (do
      let name ← Identifier.read argument.1.toList
      return [.name name, .space, .symbol .assign, .space] ++
        (Binding.ofArgument argument.2).template : Except Rejection Template)) = readArgument := by
    funext argument
    rw [readArgument]
    cases Identifier.read argument.1.toList <;> rfl
  show (Identifier.read function.toList >>= fun name =>
    arguments.mapM (fun argument => _) >>= fun passed => pure (callOf name passed)) = _
  rw [each]
  cases Identifier.read function.toList with
  | error e => rfl
  | ok name =>
    show (arguments.mapM readArgument >>= fun passed => pure (callOf name passed)) =
      (arguments.mapM readArgument).map (callOf name)
    cases arguments.mapM readArgument <;> rfl

/-- What is written for an argument depends on its shape alone. -/
theorem skeleton_readArgument (argument : String × Json) :
    (readArgument argument).map Template.skeleton =
      (Identifier.read (argumentShape argument).1.toList).map fun name =>
        Template.skeleton ([.name name, .space, .symbol .assign, .space]
          ++ Binding.template ⟨none, (argumentShape argument).2⟩) := by
  rw [readArgument, map_map]
  refine congrArg (fun f => Except.map f _) (funext fun name => ?_)
  rw [Template.skeleton_append, Template.skeleton_append]
  exact congrArg _ (Binding.skeleton_template rfl)

/-- **Calls with arguments of the same names and casts have the same skeleton.** -/
theorem skeleton_call (function : String) {arguments arguments' : List (String × Json)}
    (same : arguments.map argumentShape = arguments'.map argumentShape) :
    (call function arguments).map Statement.skeleton =
      (call function arguments').map Statement.skeleton := by
  let write (shape : String × Option Word) : Except Rejection Template :=
    (Identifier.read shape.1.toList).map fun name =>
      Template.skeleton ([.name name, .space, .symbol .assign, .space]
        ++ Binding.template ⟨none, shape.2⟩)
  have each (args : List (String × Json)) :
      (args.mapM readArgument).map (List.map Template.skeleton) =
        (args.map argumentShape).mapM write := by
    rw [map_mapM, List.mapM_map]
    exact congrArg (List.mapM · args) (funext skeleton_readArgument)
  have passed := (each arguments).trans ((congrArg (List.mapM write) same).trans (each arguments').symm)
  rw [call_eq, call_eq]
  cases Identifier.read function.toList with
  | error e => rfl
  | ok name =>
    show ((arguments.mapM readArgument).map (callOf name)).map _ =
      ((arguments'.mapM readArgument).map (callOf name)).map _
    rw [map_map, map_map]
    apply map_eq_map_of_imp passed
    intro ts ts' same
    simp only [Statement.skeleton, callOf, Template.skeleton_append, Template.skeleton_paren,
      Template.skeleton_listed, same]

end Gateway.Sql
