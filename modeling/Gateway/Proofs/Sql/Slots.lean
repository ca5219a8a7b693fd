import Gateway.Proofs.Sql.Injection
import Gateway.Proofs.Sql.Meaning
import Mathlib.Algebra.GroupWithZero.Nat

/-!
# The places of bound values

A placeholder stands at a place of the statement: it is compared with a column, assigned to one, or passed
as an argument. `readSlots` finds these places in the tokens of a text, whatever the text was made from.
A placeholder belongs to the name before it, except in the `VALUES` of an insert, where the `k`-th belongs
to the `k`-th inserted column; the operator is what stands last between the two.

`Template.Binds` says which places a template adds to those before it. The places of a filter are those of
its conditions, in order (`Filter.binds_template`), however they are grouped and negated.
-/

namespace Gateway.Sql

open Template (paren listed joined tokens)

/-! ## §1 — places -/

/-- A placeholder at its place. -/
structure Slot where
  /-- The column or argument that it is for. -/
  owner : String
  /-- What stands between that and the placeholder. -/
  operator : String
  value : Param
  /-- The type that the placeholder is cast to. -/
  cast : Option String := none
deriving DecidableEq, Repr

/-- What the next token stands behind. -/
inductive Behind where
  | placeholder
  /-- The `::` behind a placeholder. -/
  | cast
  | other
deriving DecidableEq, Repr

theorem Behind.placeholder_ne_cast : Behind.placeholder ≠ .cast := by
  decide

theorem Behind.other_ne_cast : Behind.other ≠ .cast := by
  decide

/-- What is known after a part of a statement. -/
structure SlotReader where
  /-- The names since the last `INTO`: the table of an insert and its columns. -/
  names : List String := []
  /-- The columns that the next values of an insert are for. -/
  waiting : List String := []
  /-- The last name. -/
  owner : String := ""
  operator : String := ""
  behind : Behind := .other
  found : List Slot := []
deriving DecidableEq, Repr

namespace SlotReader

/-- Cast the last placeholder to a type. -/
def castLast (type : String) (slots : List Slot) : List Slot :=
  slots.dropLast ++ slots.getLast?.toList.map fun slot => { slot with cast := some type }

/-- Take one token. -/
def step (r : SlotReader) : Token Param → SlotReader
  | .name n =>
    { r with names := r.names ++ [n], waiting := [], owner := n, operator := "", behind := .other }
  | .word w =>
    if r.behind = .cast then { r with behind := .other, found := castLast w r.found }
    else if w = "INTO" then { r with names := [], operator := w, behind := .other }
    else if w = "VALUES" then { r with waiting := r.names.tail, operator := w, behind := .other }
    else { r with operator := w, behind := .other }
  | .symbol s =>
    if s = "::" ∧ r.behind = .placeholder then { r with behind := .cast }
    -- Brackets and commas separate values that are for one name.
    else if s ∈ ["(", ")", ","] then { r with behind := .other }
    else { r with operator := s, behind := .other }
  | .placeholder v =>
    { r with
      waiting := r.waiting.tail, behind := .placeholder,
      found := r.found ++ [⟨r.waiting.headD r.owner, r.operator, v, none⟩] }
  | .literal _ | .numeral _ => { r with behind := .other }

/-- Take several tokens. -/
def run (r : SlotReader) (tokens : List (Token Param)) : SlotReader :=
  tokens.foldl step r

end SlotReader

/-- **The places of the placeholders**, from left to right. -/
def readSlots (tokens : List (Token Param)) : List Slot :=
  (SlotReader.run {} tokens).found

/-- The `k`-th value of an insert is for the `k`-th column. -/
example : readSlots [.word "INSERT", .word "INTO", .name "t", .symbol "(", .name "a", .symbol ",",
    .name "b", .symbol ")", .word "VALUES", .symbol "(", .placeholder none, .symbol ",",
    .placeholder (some "[]"), .symbol "::", .word "jsonb", .symbol ")"] =
    [⟨"a", "VALUES", none, none⟩, ⟨"b", "VALUES", some "[]", some "jsonb"⟩] := by
  decide

/-! ## §2 — the places that are asked for -/

/-- The places of a predicate on a column; nothing is bound for `IS`. -/
def Predicate.slots (column : Identifier) : Predicate → List Slot
  | compare op value => [⟨column.text, op.text, some (op.operand value), none⟩]
  | is _ => []
  | oneOf items => items.map fun item => ⟨column.text, "IN", some item, none⟩
  | search mode _ query => [⟨column.text, mode.text, some query, none⟩]

/-- The places of a condition. -/
def Condition.slots (c : Condition) : List Slot :=
  c.predicate.slots c.column

/-- **The places of a filter**: those of its conditions. -/
def Filter.slots (f : Filter) : List Slot :=
  f.conditions.flatMap Condition.slots

/-- The place of a value that is bound for a name. -/
def Binding.slot (operator : String) (name : Identifier) (b : Binding) : Slot :=
  ⟨name.text, operator, b.value, b.cast.map Word.text⟩

/-- The place of a member of a body: it is for the name that its key stands for, if that is allowed. -/
def memberSlot (operator : String) (allowed : Option (List Identifier)) (binding : Json → Binding)
    (member : String × Json) : Option Slot :=
  (Identifier.read? member.1.toList).bind fun name =>
    if allowed.all (·.contains name) then some ((binding member.2).slot operator name) else none

/-- **The places of the members of a body.** -/
def memberSlots (operator : String) (allowed : Option (List Identifier)) (binding : Json → Binding)
    (members : List (String × Json)) : List Slot :=
  members.filterMap (memberSlot operator allowed binding)

namespace Filter

theorem allConditions_eq_flatMap (members : List Filter) :
    allConditions members = members.flatMap conditions := by
  induction members with
  | nil => rfl
  | cons f rest ih => rw [allConditions, ih, List.flatMap_cons]

theorem slots_group (joint : Connective) (negated : Bool) (members : List Filter) :
    (group joint negated members).slots = members.flatMap slots := by
  rw [slots, conditions, allConditions_eq_flatMap, List.flatMap_assoc]
  rfl

end Filter

/-- A predicate binds as many values as it has places. -/
theorem Predicate.length_slots (p : Predicate) (column : Identifier) :
    (p.slots column).length = p.paramCount := by
  cases p with
  | oneOf items => exact List.length_map _
  | compare | is | search => rfl

namespace Filter

mutual

/-- **A filter has as many places as it counts parameters.** -/
theorem length_slots : ∀ f : Filter, f.slots.length = f.paramCount
  | condition c => by
    rw [slots, conditions, List.flatMap_singleton, Condition.slots, Predicate.length_slots, paramCount]
  | group joint negated members => by
    rw [slots_group, length_flatMap_slots members, paramCount]

theorem length_flatMap_slots : ∀ members : List Filter,
    (members.flatMap slots).length = paramCounts members
  | [] => rfl
  | f :: rest => by
    rw [List.flatMap_cons, List.length_append, length_slots f, length_flatMap_slots rest, paramCounts]

end

theorem paramCounts_eq_sum (filters : List Filter) :
    paramCounts filters = (filters.map paramCount).sum := by
  induction filters with
  | nil => rfl
  | cons f rest ih => rw [paramCounts, ih, List.map_cons, List.sum_cons]

end Filter

/-! ## §3 — the values of the places -/

namespace SlotReader

theorem run_append (r : SlotReader) (s t : List (Token Param)) :
    r.run (s ++ t) = (r.run s).run t :=
  List.foldl_append

/-- A word says what stands between a name and a placeholder, unless it is a type or starts the columns or
the values of an insert. -/
theorem step_word {r : SlotReader} (free : r.behind ≠ .cast) {w : String} (into : w ≠ "INTO")
    (values : w ≠ "VALUES") : r.step (.word w) = { r with operator := w, behind := .other } := by
  rw [step, if_neg free, if_neg into, if_neg values]

theorem castLast_concat (type : String) (slots : List Slot) (last : Slot) :
    castLast type (slots ++ [last]) = slots ++ [{ last with cast := some type }] := by
  simp [castLast]

theorem map_value_castLast (type : String) (slots : List Slot) :
    (castLast type slots).map Slot.value = slots.map Slot.value := by
  rcases List.eq_nil_or_concat slots with rfl | ⟨front, last, rfl⟩
  · rfl
  · rw [List.concat_eq_append, castLast_concat, List.map_append, List.map_append]
    rfl

/-- A token adds the value of a placeholder, and nothing else. -/
theorem map_value_step (r : SlotReader) (token : Token Param) :
    (r.step token).found.map Slot.value =
      r.found.map Slot.value ++ token.placeholder?.toList := by
  cases token with
  | placeholder v => exact List.map_append
  | word w =>
    simp only [step, Token.placeholder?, Option.toList_none, List.append_nil]
    split
    · exact map_value_castLast w r.found
    · split
      · rfl
      · split <;> rfl
  | symbol s =>
    simp only [step, Token.placeholder?, Option.toList_none, List.append_nil]
    split
    · rfl
    · split <;> rfl
  | name | literal | numeral => exact (List.append_nil _).symm

/-- **The values of the places are those of the placeholders.** -/
theorem map_value_run (r : SlotReader) (tokens : List (Token Param)) :
    (r.run tokens).found.map Slot.value =
      r.found.map Slot.value ++ tokens.filterMap Token.placeholder? := by
  induction tokens generalizing r with
  | nil => exact (List.append_nil _).symm
  | cons token rest ih =>
    show ((r.step token).run rest).found.map Slot.value = _
    rw [ih, map_value_step, List.append_assoc, List.filterMap_cons]
    cases token.placeholder? <;> rfl

end SlotReader

/-! ## §4 — templates that add places -/

/-- The piece is neither a placeholder nor the mark of a cast. -/
def Piece.isInert : Piece → Bool
  | bound _ | symbol .cast => false
  | _ => true

namespace Template

theorem filterMap_placeholder?_tokens (t : Template) :
    t.tokens.filterMap Token.placeholder? = t.params := by
  induction t with
  | nil => rfl
  | cons p rest ih =>
    cases p with
    | bound v => exact congrArg (v :: ·) ih
    | symbol s => cases s <;> exact ih
    | space | word | name | literal | numeral => exact ih

/-- **The template adds these places** to those before it, unless it stands behind a cast. -/
def Binds (t : Template) (slots : List Slot) : Prop :=
  ∀ r : SlotReader, r.behind ≠ .cast →
    (r.run t.tokens).behind ≠ .cast ∧ (r.run t.tokens).found = r.found ++ slots

variable {s t : Template} {a b : List Slot}

/-- A template binds the values of its places. -/
theorem Binds.params_eq (h : Binds t a) : t.params = a.map Slot.value := by
  have values := SlotReader.map_value_run {} t.tokens
  rw [(h {} (by decide)).2, filterMap_placeholder?_tokens] at values
  exact values.symm

theorem Binds.readSlots_eq (h : Binds t a) : readSlots t.tokens = a :=
  (h {} (by decide)).2

theorem binds_nil : Binds [] [] :=
  fun _ free => ⟨free, (List.append_nil _).symm⟩

theorem Binds.append (hs : Binds s a) (ht : Binds t b) : Binds (s ++ t) (a ++ b) := by
  intro r free
  obtain ⟨free, found⟩ := hs r free
  obtain ⟨free', found'⟩ := ht _ free
  rw [tokens_append, SlotReader.run_append]
  exact ⟨free', by rw [found', found, List.append_assoc]⟩

/-- The template has neither placeholders nor casts. -/
def Inert (t : Template) : Prop :=
  ∀ p ∈ t, p.isInert = true

/-- **A template without placeholders adds no place.** -/
theorem binds_of_inert (h : Inert t) : Binds t [] := by
  induction t with
  | nil => exact binds_nil
  | cons p rest ih =>
    have later := ih fun q mem => h q (List.mem_cons_of_mem _ mem)
    have here : Binds [p] [] := by
      have inert := h p List.mem_cons_self
      intro r free
      rw [List.append_nil]
      cases p with
      | space => exact ⟨free, rfl⟩
      | name | literal | numeral => exact ⟨Behind.other_ne_cast, rfl⟩
      | bound v => cases inert
      | word w =>
        show (r.step (.word w.text)).behind ≠ .cast ∧ (r.step (.word w.text)).found = r.found
        rw [SlotReader.step, if_neg free]
        split
        · exact ⟨Behind.other_ne_cast, rfl⟩
        · split <;> exact ⟨Behind.other_ne_cast, rfl⟩
      | symbol s =>
        cases s with
        | cast => cases inert
        | _ => exact ⟨Behind.other_ne_cast, rfl⟩
    exact here.append later

theorem inert_of_check (h : t.all Piece.isInert = true) : Inert t :=
  List.all_eq_true.1 h

theorem Inert.append (hs : Inert s) (ht : Inert t) : Inert (s ++ t) :=
  fun p mem => (List.mem_append.1 mem).elim (hs p) (ht p)

theorem Inert.paren (h : Inert t) : Inert (paren t) :=
  (inert_of_check rfl : Inert [.symbol .opening]).append (h.append (inert_of_check rfl))

theorem inert_joined {separator : Template} (inert : Inert separator) {parts : List Template}
    (all : ∀ part ∈ parts, Inert part) : Inert (joined separator parts) := by
  cases parts with
  | nil => exact fun _ mem => absurd mem List.not_mem_nil
  | cons part rest =>
    rw [joined_cons]
    refine (all part List.mem_cons_self).append fun p mem => ?_
    obtain ⟨next, hn, mem⟩ := List.mem_flatMap.1 mem
    exact inert.append (all next (List.mem_cons_of_mem _ hn)) p mem

theorem inert_listed {parts : List Template} (all : ∀ part ∈ parts, Inert part) :
    Inert (listed parts) :=
  inert_joined (inert_of_check rfl) all

theorem inert_names (ns : List Identifier) : Inert (names ns) := by
  refine inert_listed fun part mem => ?_
  obtain ⟨n, -, rfl⟩ := List.mem_map.1 mem
  exact inert_of_check rfl

/-- What stands in front of places without adding any. -/
theorem Binds.after (ht : Binds t b) (inert : Inert s) : Binds (s ++ t) b :=
  (binds_of_inert inert).append ht

/-- What stands behind places without adding any. -/
theorem Binds.before (hs : Binds s a) (inert : Inert t) : Binds (s ++ t) a := by
  have both := hs.append (binds_of_inert inert)
  rwa [List.append_nil] at both

theorem Binds.paren (h : Binds t a) : Binds (paren t) a :=
  (h.before (inert_of_check rfl)).after (inert_of_check rfl : Inert [.symbol .opening])

/-- **The places of parts come one after the other.** -/
theorem binds_joined {separator : Template} (inert : Inert separator) {parts : List Template}
    {places : List (List Slot)} (each : List.Forall₂ Binds parts places) :
    Binds (joined separator parts) places.flatten := by
  cases each with
  | nil => exact binds_nil
  | @cons part slots parts places first rest =>
    rw [joined_cons, List.flatten_cons]
    refine first.append ?_
    induction rest with
    | nil => exact binds_nil
    | cons next _ ih =>
      rw [List.flatMap_cons, List.flatten_cons]
      exact (next.after inert).append ih

end Template

open Template (Binds Inert binds_nil binds_joined binds_of_inert inert_of_check tokens_append
  tokens_paren joined_cons)

/-! ## §5 — filters -/

/-- The further items of a list are for the same column. -/
theorem run_itemSlots (items : List String) {r : SlotReader} (none : r.waiting = [])
    (free : r.behind ≠ .cast) :
    let last := r.run (tokens ((items.map fun i => [.bound (some i)]).flatMap
      (Template.commaBlank ++ ·)))
    last.behind ≠ .cast ∧
      last.found = r.found ++ items.map fun item => ⟨r.owner, r.operator, some item, .none⟩ := by
  induction items generalizing r with
  | nil => exact ⟨free, (List.append_nil _).symm⟩
  | cons item rest ih =>
    let next := (r.step (.symbol ",")).step (.placeholder (some item))
    have waits : next.waiting = [] := congrArg List.tail none
    have added : next.found = r.found ++ [⟨r.owner, r.operator, some item, .none⟩] := by
      show r.found ++ [⟨r.waiting.headD r.owner, r.operator, some item, .none⟩] = _
      rw [none]
      rfl
    obtain ⟨free, found⟩ := ih waits Behind.placeholder_ne_cast
    refine ⟨free, found.trans ?_⟩
    rw [added, List.append_assoc]
    rfl

/-- **A predicate adds its places.** -/
theorem Predicate.binds_template (p : Predicate) (column : Identifier) :
    Binds (p.template column) (p.slots column) := by
  cases p with
  | compare op value =>
    rw [template, slots, op.boundText_eq_operand]
    cases op <;> exact fun r _ => ⟨Behind.placeholder_ne_cast, rfl⟩
  | is value => cases value <;> exact fun r _ => ⟨Behind.other_ne_cast, (List.append_nil _).symm⟩
  | search mode language query =>
    cases language with
    | none => cases mode <;> exact fun r _ => ⟨Behind.other_ne_cast, rfl⟩
    | some l => cases mode <;> exact fun r _ => ⟨Behind.other_ne_cast, rfl⟩
  | oneOf items =>
    cases items with
    | nil => exact binds_of_inert (inert_of_check rfl)
    | cons item items =>
      intro r _
      let first := r.run [.name column.text, .word "IN", .symbol "(", .placeholder (some item)]
      let more := tokens ((items.map fun i => [.bound (some i)]).flatMap (Template.commaBlank ++ ·))
      obtain ⟨-, found⟩ := run_itemSlots items (rfl : first.waiting = []) Behind.placeholder_ne_cast
      have closed : r.run (tokens ((oneOf (item :: items)).template column)) =
          (first.run more).step (.symbol ")") := by
        rw [template, tokens_append, tokens_paren, List.map_cons, listed, joined_cons, tokens_append]
        exact SlotReader.run_append first more [.symbol ")"]
      rw [closed]
      exact ⟨Behind.other_ne_cast, found.trans (List.append_assoc ..)⟩

theorem Condition.binds_template (c : Condition) : Binds c.template c.slots := by
  have clause := c.predicate.binds_template c.column
  unfold template
  cases c.negated with
  | false => exact clause
  | true => exact clause.paren.after (inert_of_check rfl : Inert [.word .notWord, .space])

theorem Connective.inert_separator (joint : Connective) : Inert joint.separator := by
  cases joint <;> exact inert_of_check rfl

namespace Filter

mutual

/-- **A filter adds the places of its conditions.** -/
theorem binds_template : ∀ f : Filter, Binds f.template f.slots
  | condition c => by
    rw [slots, conditions, List.flatMap_singleton]
    exact c.binds_template
  | group joint negated members => by
    have inner := (binds_joined joint.inert_separator (binds_memberTemplates members)).paren
    rw [slots_group, List.flatMap_def]
    unfold template groupTemplate
    cases negated with
    | false => exact inner
    | true => exact inner.after (inert_of_check rfl : Inert [.word .notWord, .space])

theorem binds_memberTemplates : ∀ members : List Filter,
    List.Forall₂ Binds (memberTemplates members) (members.map slots)
  | [] => .nil
  | condition c :: rest =>
    .cons (binds_template (condition c)).paren (binds_memberTemplates rest)
  | group joint negated members :: rest =>
    .cons (binds_template (group joint negated members)) (binds_memberTemplates rest)

end

end Filter

/-- **The places of a `WHERE` clause** are those of its filters. -/
theorem binds_whereClause (filters : List Filter) :
    Binds (whereClause filters) (filters.flatMap Filter.slots) := by
  cases filters with
  | nil => exact binds_nil
  | cons f rest =>
    have each : List.Forall₂ Binds ((f :: rest).map Filter.template) ((f :: rest).map Filter.slots) :=
      List.forall₂_map_left_iff.2 (List.forall₂_map_right_iff.2
        (List.forall₂_same.2 fun g _ => g.binds_template))
    have clauses := binds_joined Connective.and.inert_separator each
    rw [← List.flatMap_def] at clauses
    exact clauses.after (inert_of_check rfl : Inert [.space, .word .whereWord, .space])

end Gateway.Sql
