import Gateway.Feed.Event
import Gateway.Proofs.Json.Record

/-!
# Changes as records

A change that was read from a notification is written as a value from which the same change is read again
(`ofValue?_value`). The two forms need not be the same: the notification may write the operation in any
case (`read?_membersAs`) and may leave a row out or give it as `null`, and the value has the name in upper
case and `null`. Reading forgets these differences, so nothing of the change is lost.
-/

namespace Gateway.Feed

open Gateway.Json.Record (Carried)
open Gateway.Text (upper)

/-- An operation has its name in any case, and no other. -/
theorem Operation.read?_eq_some_iff {raw : String} {op : Operation} :
    read? raw = some op ↔ upper raw.toList = op.name.toList := by
  rw [← String.toList_ofList (l := upper raw.toList), String.toList_inj, read?]
  generalize String.ofList (upper raw.toList) = shown
  cases op <;> simp only [name] <;> split <;> simp_all

namespace Event

variable {e : Event}

/-! ## §1 — rows -/

/-- The change has this row, now or before. -/
def HasRow (e : Event) (row : Json) : Prop :=
  e.record = some row ∨ e.oldRecord = some row

/-- Every row of the change is canonical. -/
def Canonical (e : Event) : Prop :=
  ∀ row, e.HasRow row → row.Canonical

/-- What is no row is not given as `null`. -/
def Settled (e : Event) : Prop :=
  ¬ e.HasRow .null

theorem row?_eq_some {slot : Option Json} {row : Json} (given : row? slot = some row) :
    slot = some row ∧ row ≠ .null := by
  obtain ⟨same, filled⟩ := Option.filter_eq_some_iff.1 given
  refine ⟨same, ?_⟩
  rintro rfl
  cases filled

/-- A row comes back from what stands in its place. -/
theorem row?_getD {row : Option Json} (filled : row ≠ some .null) : row? (some (row.getD .null)) = row := by
  cases row with
  | none => rfl
  | some value =>
    cases value with
    | null => exact absurd rfl filled
    | bool | int | float | str | arr | obj => rfl

/-- **A change that was read** has canonical rows, and none of them is `null`. -/
theorem canonical_of_read? {text : String} (read : read? text = some e) : e.Canonical ∧ e.Settled := by
  obtain ⟨slots, record, shaped⟩ := Option.bind_eq_some_iff.1 read
  have filed := Json.Record.canonical_ofText record
  unfold ofSlots? at shaped
  split at shaped
  next =>
    obtain ⟨_, -, rfl⟩ := Option.map_eq_some_iff.1 shaped
    constructor
    · rintro row (now | before)
      · exact filed row (by simp [(row?_eq_some now).1])
      · exact filed row (by simp [(row?_eq_some before).1])
    · rintro (now | before)
      · exact (row?_eq_some now).2 rfl
      · exact (row?_eq_some before).2 rfl
  next => cases shaped

/-- A row or `null` in its place. -/
theorem getD_null {p : Json → Prop} (null : p .null) {slot : Option Json}
    (each : ∀ row, slot = some row → p row) : p (slot.getD .null) := by
  cases slot with
  | none => exact null
  | some row => exact each row rfl

/-! ## §2 — reading a change -/

variable {name : String}

/-- The operation of a change is taken up under any name that it has. -/
theorem putMember_type (named : Operation.read? name = some e.operation) (slots : Json.Record.Slots) :
    Json.Record.putMember fields slots ("type", .str name) = Json.Record.put slots 2 (.str name) := by
  have known : ((Json.str name).str?.bind Operation.read?).isSome = true := by
    rw [Json.str?, Option.bind_some, named, Option.isSome_some]
  exact if_pos known

/-- The slots from which a change is read. -/
def slotsAs (e : Event) (name : String) : Json.Record.Slots :=
  [some (.str e.schema), some (.str e.table), some (.str name), some (e.record.getD .null),
    some (e.oldRecord.getD .null)]

theorem ofSlots?_slotsAs (settled : e.Settled) (named : Operation.read? name = some e.operation) :
    ofSlots? (e.slotsAs name) = some e := by
  have now : row? (some (e.record.getD .null)) = e.record :=
    row?_getD fun same => settled (Or.inl same)
  have before : row? (some (e.oldRecord.getD .null)) = e.oldRecord :=
    row?_getD fun same => settled (Or.inr same)
  rw [slotsAs, ofSlots?, named, now, before]
  rfl

/-- The members of a change in the order of their keys. -/
theorem value_eq (e : Event) : e.value =
    .obj [("old_record", e.oldRecord.getD .null), ("record", e.record.getD .null),
      ("schema", .str e.schema), ("table", .str e.table), ("type", .str e.operation.name)] := rfl

/-- **A change is read from its value.** -/
theorem ofValue?_value (settled : e.Settled) : ofValue? e.value = some e := by
  have named := Operation.read?_name e.operation
  have slots : Json.Record.ofValue fields e.value = some (e.slotsAs e.operation.name) := by
    rw [value_eq, Json.Record.ofValue]
    simp only [List.foldlM_cons, putMember_type named]
    rfl
  rw [ofValue?, slots, Option.bind_some, ofSlots?_slotsAs settled named]

/-- The members of a notification that gives the operation by a name. -/
def membersAs (e : Event) (name : String) : List (String × Json) :=
  [("schema", .str e.schema), ("table", .str e.table), ("type", .str name),
    ("record", e.record.getD .null), ("old_record", e.oldRecord.getD .null)]

/-- **A change is read from a notification**, whatever the case of its operation is, as long as the rows
read back. -/
theorem read?_membersAs (settled : e.Settled) (named : Operation.read? name = some e.operation)
    (rows : ∀ row, e.HasRow row → row.Canonical ∧ row.Everywhere Json.Legible ∧
      row.depth ≤ Json.maxDepth - 1) : read? (Json.obj (e.membersAs name)).text = some e := by
  have text (k : String) (known : (Json.Record.fieldAt? fields k).isSome = true) (s : String) :
      Carried fields (k, .str s) :=
    ⟨known, Json.readsBack trivial trivial, trivial, Nat.zero_le _⟩
  have row (k : String) (known : (Json.Record.fieldAt? fields k).isSome = true) {slot : Option Json}
      (has : ∀ row, slot = some row → e.HasRow row) : Carried fields (k, slot.getD .null) := by
    refine getD_null (p := fun row => Carried fields (k, row)) ?_ fun row given => ?_
    · exact ⟨known, Json.readsBack trivial trivial, trivial, Nat.zero_le _⟩
    · obtain ⟨canonical, legible, room⟩ := rows row (has row given)
      exact ⟨known, Json.readsBack canonical.fits legible, canonical.ordered, room⟩
  have carried : ∀ m ∈ e.membersAs name, Carried fields m := by
    simp only [membersAs, List.forall_mem_cons]
    exact ⟨text "schema" rfl e.schema, text "table" rfl e.table, text "type" rfl name,
      row "record" rfl fun _ now => Or.inl now, row "old_record" rfl fun _ before => Or.inr before,
      List.forall_mem_nil _⟩
  have slots : Json.Record.ofValue fields (.obj (e.membersAs name)) = some (e.slotsAs name) := by
    rw [membersAs, Json.Record.ofValue]
    simp only [List.foldlM_cons, putMember_type named]
    rfl
  rw [read?, Json.Record.ofText_text carried, slots, Option.bind_some, ofSlots?_slotsAs settled named]

/-- The value of a change is canonical when its rows are. -/
theorem canonical_value (canonical : e.Canonical) : e.value.Canonical := by
  refine Json.canonical_object ?_
  simp only [members, List.forall_mem_cons]
  exact ⟨Json.canonical_str _, Json.canonical_str _, Json.canonical_str _,
    getD_null Json.canonical_null fun row now => canonical row (Or.inl now),
    getD_null Json.canonical_null fun row before => canonical row (Or.inr before), List.forall_mem_nil _⟩

end Event

end Gateway.Feed
