import Gateway.Proofs.Sql.Expression

/-!
# What filters mean

A filter has a truth value of its own, by recursion on its shape and without any text: conditions are
atoms or their negations, groups are conjunctions or disjunctions of their members. `exists_isOperand`
says that the written filter is read as an expression with just this value, and `whereClause_meaning`
that the clause of several filters is read as their conjunction, whatever the atoms are worth.

A group without members has no text that could be read; `Filter.Filled` says that there is none.
-/

namespace Gateway.Sql

open Template (IsOperand IsWhole joined paren listed tokens)

variable {assigned : Atom → Truth}

/-! ## §1 — the truth of filters -/

/-- The operator of a comparison as an atom names it. -/
def Comparison.text : Comparison → String
  | eq => "=" | neq => "<>" | gt => ">" | gte => ">=" | lt => "<" | lte => "<="
  | like => "LIKE" | ilike => "ILIKE"
  | contains => "@>" | containedBy => "<@" | overlaps => "&&"

/-- A pattern of a client as SQL spells it, with `%` for what stands for any text. -/
def sqlPattern : List Char → List Char
  | [] => []
  | '*' :: rest => '%' :: sqlPattern rest
  | c :: rest => c :: sqlPattern rest

/-- What a column is compared with: a value as it is, or a pattern. -/
def Comparison.operand : Comparison → String → String
  | eq, value | neq, value | gt, value | gte, value | lt, value | lte, value => value
  | like, pattern | ilike, pattern => String.ofList (sqlPattern pattern.toList)
  | contains, value | containedBy, value | overlaps, value => value

/-- The word of a test as an atom names it. -/
def IsValue.text : IsValue → String
  | null => "NULL" | true => "TRUE" | false => "FALSE" | unknown => "UNKNOWN"

/-- The function of a search as an atom names it. -/
def SearchMode.text : SearchMode → String
  | query => "to_tsquery" | plain => "plainto_tsquery" | phrase => "phraseto_tsquery"
  | websearch => "websearch_to_tsquery"

/-- What a predicate asks of a row; nothing is one of no items. -/
def Predicate.expr (column : Identifier) : Predicate → Expr
  | compare op value => .atom (.compare column.text op.text (some (op.operand value)))
  | is value => .atom (.is column.text value.text)
  | oneOf [] => .false
  | oneOf (item :: items) => .atom (.oneOf column.text ((item :: items).map some))
  | search mode language query =>
    .atom (.search column.text mode.text (language.map (·.text)) (some query))

/-- The truth of a condition. -/
def Condition.truth (assigned : Atom → Truth) (c : Condition) : Truth :=
  let asked := (c.predicate.expr c.column).truth assigned
  if c.negated then asked.not else asked

/-- The truth of a group from that of its members. -/
def Connective.truth : Connective → List Truth → Truth
  | and => Truth.all
  | or => Truth.any

namespace Filter

mutual

/-- **The truth of a filter** when each atom has the given value. -/
def truth (assigned : Atom → Truth) : Filter → Truth
  | condition c => c.truth assigned
  | group joint negated members =>
    let joined := joint.truth (truths assigned members)
    if negated then joined.not else joined

/-- The truth of each of several filters. -/
def truths (assigned : Atom → Truth) : List Filter → List Truth
  | [] => []
  | f :: rest => f.truth assigned :: truths assigned rest

end

mutual

/-- Every group in the filter has a member. -/
def Filled : Filter → Prop
  | condition _ => True
  | group _ _ members => members ≠ [] ∧ AllFilled members

/-- Every group in several filters has a member. -/
def AllFilled : List Filter → Prop
  | [] => True
  | f :: rest => f.Filled ∧ AllFilled rest

end

mutual

/-- The conditions of a filter, in the order in which they are written. -/
def conditions : Filter → List Condition
  | condition c => [c]
  | group _ _ members => allConditions members

/-- The conditions of several filters. -/
def allConditions : List Filter → List Condition
  | [] => []
  | f :: rest => f.conditions ++ allConditions rest

end

theorem allFilled_iff {members : List Filter} : AllFilled members ↔ ∀ f ∈ members, f.Filled := by
  induction members with
  | nil => simp [AllFilled]
  | cons f rest ih => simp [AllFilled, ih]

end Filter

/-! ## §2 — atoms -/

/-- The further items of a list are read one after the other. -/
theorem run_items (column : String) (items : List String) (before : List Param) (level : Level)
    (outer : List Level) :
    (tokens ((items.map fun i => [.bound (some i)]).flatMap (Template.commaBlank ++ ·))).foldlM
        Reader.step ⟨.itemEnd column before, level, outer⟩ =
      some ⟨.itemEnd column (before ++ items.map some), level, outer⟩ := by
  induction items generalizing before with
  | nil => simp [tokens]
  | cons item rest ih =>
    have later := ih (before ++ [some item])
    rw [List.append_assoc] at later
    exact later

theorem sqlPattern_eq_map (pattern : List Char) :
    sqlPattern pattern = pattern.map fun c => if c = '*' then '%' else c := by
  fun_induction sqlPattern with
  | case1 => rfl
  | case2 rest ih => rw [ih]; rfl
  | case3 c rest other ih => rw [ih, List.map_cons, if_neg other]

/-- What is bound in a comparison is what the column is compared with. -/
theorem Comparison.boundText_eq_operand (op : Comparison) (value : String) :
    op.boundText value = op.operand value := by
  cases op with
  | like | ilike => exact congrArg String.ofList (sqlPattern_eq_map value.toList).symm
  | _ => rfl

/-- **A predicate is read as what it asks.** -/
theorem Predicate.isOperand (p : Predicate) (column : Identifier) :
    IsOperand (p.template column) (p.expr column) := by
  intro level outer
  cases p with
  | compare op value =>
    rw [template, op.boundText_eq_operand]
    cases op <;> rfl
  | is value => cases value <;> rfl
  | oneOf items =>
    cases items with
    | nil => rfl
    | cons item items =>
      have run := run_items column.text items [some item] level outer
      rw [template, Template.tokens_append, Template.tokens_paren, List.map_cons, listed,
        Template.joined_cons, Template.tokens_append]
      show List.foldlM Reader.step ⟨.itemEnd column.text [some item], level, outer⟩
        (tokens ((items.map fun i => [.bound (some i)]).flatMap (Template.commaBlank ++ ·))
          ++ [Token.symbol ")"]) = _
      rw [List.foldlM_append, run]
      rfl
  | search mode language query =>
    cases mode <;> cases language <;> rfl

/-- **A condition is read as an expression of its truth.** -/
theorem Condition.exists_isOperand (c : Condition) :
    ∃ e, IsOperand c.template e ∧ ∀ assigned, e.truth assigned = c.truth assigned := by
  have asked := c.predicate.isOperand c.column
  unfold template truth
  cases c.negated with
  | false => exact ⟨_, asked, fun _ => rfl⟩
  | true => exact ⟨_, asked.isWhole.paren.not, fun _ => rfl⟩

/-! ## §3 — groups -/

theorem truth_foldl_and (es : List Expr) (e : Expr) :
    (es.foldl .and e).truth assigned = Truth.all ((e :: es).map (Expr.truth assigned)) := by
  induction es generalizing e with
  | nil => exact (Truth.and_true _).symm
  | cons f rest ih =>
    rw [List.foldl_cons, ih, List.map_cons, Truth.all, List.foldr_cons, Expr.truth, Truth.and_assoc]
    rfl

theorem truth_foldl_or (es : List Expr) (e : Expr) :
    (es.foldl .or e).truth assigned = Truth.any ((e :: es).map (Expr.truth assigned)) := by
  induction es generalizing e with
  | nil => exact (Truth.or_false _).symm
  | cons f rest ih =>
    rw [List.foldl_cons, ih, List.map_cons, Truth.any, List.foldr_cons, Expr.truth, Truth.or_assoc]
    rfl

/-- **Operands joined by a connective** are read as an expression of the truth of the group. -/
theorem Connective.exists_isWhole (joint : Connective) {parts : List Template} {es : List Expr}
    (operands : List.Forall₂ IsOperand parts es) (filled : parts ≠ []) :
    ∃ e, IsWhole (joined joint.separator parts) e ∧
      ∀ assigned, e.truth assigned = joint.truth (es.map (Expr.truth assigned)) := by
  cases operands with
  | nil => exact absurd rfl filled
  | @cons part e parts es first rest =>
    cases joint with
    | and => exact ⟨_, Template.isWhole_conjunction first rest, fun _ => truth_foldl_and es e⟩
    | or => exact ⟨_, Template.isWhole_disjunction first rest, fun _ => truth_foldl_or es e⟩

namespace Filter

/-- A group is read as an expression of its truth when its members are. -/
theorem exists_isOperand_groupTemplate (joint : Connective) (negated : Bool) {parts : List Template}
    {es : List Expr} (operands : List.Forall₂ IsOperand parts es) (filled : parts ≠ []) :
    ∃ e, IsOperand (groupTemplate joint negated parts) e ∧ ∀ assigned, e.truth assigned =
      let joined := joint.truth (es.map (Expr.truth assigned))
      if negated then joined.not else joined := by
  obtain ⟨e, whole, same⟩ := joint.exists_isWhole operands filled
  cases negated with
  | false => exact ⟨e, whole.paren, same⟩
  | true => exact ⟨.not e, whole.paren.not, fun assigned => congrArg Truth.not (same assigned)⟩

theorem memberTemplates_ne_nil {members : List Filter} (filled : members ≠ []) :
    memberTemplates members ≠ [] := by
  cases members with
  | nil => exact absurd rfl filled
  | cons f rest => cases f <;> exact List.cons_ne_nil _ _

mutual

/-- **A filter is read as an expression of its truth.** -/
theorem exists_isOperand : ∀ f : Filter, f.Filled →
    ∃ e, IsOperand f.template e ∧ ∀ assigned, e.truth assigned = f.truth assigned
  | condition c, _ => c.exists_isOperand
  | group joint negated members, filled => by
    obtain ⟨es, operands, same⟩ := exists_isOperand_members members filled.2
    obtain ⟨e, operand, value⟩ := exists_isOperand_groupTemplate joint negated operands
      (memberTemplates_ne_nil filled.1)
    refine ⟨e, operand, ?_⟩
    intro assigned
    rw [value, same]
    rfl

/-- The members of a group are read as expressions of their truth; conditions stand in parentheses. -/
theorem exists_isOperand_members : ∀ members : List Filter, AllFilled members →
    ∃ es, List.Forall₂ IsOperand (memberTemplates members) es ∧
      ∀ assigned, es.map (Expr.truth assigned) = truths assigned members
  | [], _ => ⟨[], .nil, fun _ => rfl⟩
  | condition c :: rest, filled => by
    obtain ⟨e, operand, value⟩ := c.exists_isOperand
    obtain ⟨es, operands, same⟩ := exists_isOperand_members rest filled.2
    refine ⟨e :: es, .cons operand.isWhole.paren operands, ?_⟩
    intro assigned
    rw [List.map_cons, value, same]
    rfl
  | group joint negated members :: rest, filled => by
    obtain ⟨e, operand, value⟩ := exists_isOperand (group joint negated members) filled.1
    obtain ⟨es, operands, same⟩ := exists_isOperand_members rest filled.2
    refine ⟨e :: es, .cons operand operands, ?_⟩
    intro assigned
    rw [List.map_cons, value, same]
    rfl

end

end Filter

/-- **The filters of a request, joined by `AND`, are read as their conjunction.** -/
theorem exists_isWhole_filters {filters : List Filter} (filled : Filter.AllFilled filters)
    (some : filters ≠ []) :
    ∃ e, IsWhole (joined Connective.and.separator (filters.map Filter.template)) e ∧
      ∀ assigned, e.truth assigned = Truth.all (filters.map (Filter.truth assigned)) := by
  have each : ∀ fs : List Filter, Filter.AllFilled fs →
      ∃ es, List.Forall₂ IsOperand (fs.map Filter.template) es ∧
        ∀ assigned, es.map (Expr.truth assigned) = fs.map (Filter.truth assigned) := by
    intro fs filled
    induction fs with
    | nil => exact ⟨[], .nil, fun _ => rfl⟩
    | cons f rest ih =>
      obtain ⟨e, operand, value⟩ := f.exists_isOperand filled.1
      obtain ⟨es, operands, same⟩ := ih filled.2
      refine ⟨e :: es, .cons operand operands, ?_⟩
      intro assigned
      rw [List.map_cons, List.map_cons, value, same]
  obtain ⟨es, operands, same⟩ := each filters filled
  obtain ⟨e, whole, value⟩ := Connective.and.exists_isWhole operands (by simpa using some)
  exact ⟨e, whole, fun assigned => (value assigned).trans (congrArg Truth.all (same assigned))⟩

end Gateway.Sql
