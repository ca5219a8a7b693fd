import Gateway.Proofs.Json.Agreement
import Gateway.Proofs.Json.Record

/-!
# Fields of the value that a text is

A record is read from a text in its own way, which passes over the members that belong to no field. Where
the text is also read as a value, the two readings agree: the slot of a field holds what the value has for
it, the item in its place or the member of its name (`slotAt_ofText`).
-/

namespace Gateway.Json

/-- What a value has for a field: the member of its name, or the item in its place. -/
def fieldOf (name : String) (i : Nat) : Json → Option Json
  | .obj members => members.lookup name
  | .arr items => items[i]?
  | _ => none

namespace Record

variable {fields : List Field} {name : String} {i : Nat} {slots slots' : Slots}
  {s rest rest' : List Char}

/-! ## §1 — objects -/

/-- **A member fills the slot of its name**, and no other one does. -/
theorem readMember_slot (only : Bears fields i name) (bound : i < slots.length)
    {key front : List Char} {fuel : Nat} {value : Json}
    (read : readMember fields slots key s = some (slots', rest)) (colon : skipBlank s = ':' :: front)
    (whole : readValue .strict (maxDepth - 1) fuel front = some (value, rest')) :
    rest = rest' ∧ slots'.length = slots.length ∧ (slotAt slots' i).toList =
      (slotAt slots i).toList ++ valuesOf name [(String.ofList key, value.normalize)] := by
  cases memberStep_of_readMember read with
  | unknown colon' unknown passed =>
    obtain ⟨-, rfl⟩ := List.cons.inj (colon.symm.trans colon')
    obtain ⟨⟨_, _⟩, lenient, rfl⟩ := Option.map_eq_some_iff.1 passed
    rw [valuesOf_cons, if_neg (only.ne unknown)]
    exact ⟨(readValue_agree lenient whole).1, rfl, (List.append_nil _).symm⟩
  | @known _ _ j _ _ colon' found front' free =>
    obtain ⟨-, rfl⟩ := List.cons.inj (colon.symm.trans colon')
    obtain ⟨rfl, equal⟩ := readValue_agree front' whole
    obtain rfl := equal rfl
    refine ⟨rfl, List.length_set, ?_⟩
    rw [valuesOf_cons]
    by_cases here : j = i
    · rw [if_pos ((only.eq_iff found).1 here)]
      subst here
      rw [free]
      simp [slotAt, List.getElem?_set_self bound, valuesOf]
    · rw [if_neg (mt (only.eq_iff found).2 here), slotAt, List.getElem?_set_ne here]
      exact (List.append_nil _).symm

/-- **Members fill the slot of a name** with the one value that they give it. -/
theorem readMembers_slot (only : Bears fields i name) (bound : i < slots.length)
    {fuel fuel' : Nat} {members : List (String × Json)}
    (read : readMembers fields slots fuel s = some (slots', rest))
    (whole : Json.readMembers .strict (maxDepth - 1) fuel' s = some (members, rest')) :
    rest = rest' ∧
      (slotAt slots' i).toList = (slotAt slots i).toList ++ valuesOf name (normalizeMembers members) := by
  induction fuel generalizing slots s fuel' members with
  | zero => cases read
  | succ fuel ih =>
    cases fuel' with
    | zero => cases whole
    | succ fuel' =>
      obtain ⟨_, front, value, _, ⟨opens, quoted, colon⟩, first, later⟩ := readMembers_eq_some_iff.1 whole
      rw [readMembers] at read
      simp only [opens, quoted, bind, Option.bind_some] at read
      obtain ⟨⟨next, _⟩, member, read⟩ := Option.bind_eq_some_iff.1 read
      obtain ⟨rfl, length, filled⟩ := readMember_slot only bound member colon first
      cases later with
      | last closes =>
        simp only [closes] at read
        obtain ⟨rfl, rfl⟩ := Prod.mk.inj (Option.some.inj read)
        exact ⟨rfl, filled⟩
      | more comma inside =>
        simp only [comma] at read
        obtain ⟨rfl, later⟩ := ih (length.symm ▸ bound) read inside
        refine ⟨rfl, ?_⟩
        rw [later, filled, List.append_assoc, normalizeMembers, valuesOf, valuesOf, valuesOf,
          ← List.filterMap_append]
        rfl

theorem slotAt_blank (fields : List Field) (i : Nat) : slotAt (blank fields) i = none := by
  rw [slotAt, blank, List.getElem?_map]
  cases fields[i]? <;> rfl

/-! ## §2 — arrays -/

/-- **The items of an array that are still to be read**: all of them, or those behind one that was. -/
inductive Pending (fuel : Nat) (s : List Char) : Bool → List Json → List Char → Prop
  | all {items : List Json} {rest : List Char}
      (inside : Bracketed ']' (Json.readItems .strict (maxDepth - 1) fuel) s items rest) :
    Pending fuel s true items rest
  | others {value : Json} {items : List Json} {rest : List Char}
      (later : Continued ']' (Json.readItems .strict (maxDepth - 1) fuel) value s (value :: items) rest) :
    Pending fuel s false items rest

section Arrays

variable {fuel : Nat} {first : Bool} {items : List Json} {behind : List Char}

/-- At the bracket no items are left. -/
theorem Pending.closed (pending : Pending fuel s first items rest) (closes : skipBlank s = ']' :: behind) :
    items = [] ∧ rest = behind := by
  cases pending with
  | all inside =>
    cases inside with
    | closed closes' => exact ⟨rfl, (List.cons.inj (closes'.symm.trans closes)).2⟩
    | filled opens => exact absurd closes (opens behind)
  | others later =>
    cases later with
    | last closes' => exact ⟨rfl, (List.cons.inj (closes'.symm.trans closes)).2⟩
    | more comma => cases comma.symm.trans closes

/-- Where an item stands, the items that are left are read. -/
theorem Pending.readItems {front : List Char} (pending : Pending fuel s first items rest)
    (place : ItemAt s first front) :
    Json.readItems .strict (maxDepth - 1) fuel front = some (items, rest) := by
  cases place with
  | first opens =>
    cases pending with
    | all inside =>
      cases inside with
      | closed closes => exact absurd closes (opens _)
      | filled _ read => exact read
  | later comma =>
    cases pending with
    | others later =>
      cases later with
      | last closes => cases comma.symm.trans closes
      | more comma' read =>
        obtain ⟨-, rfl⟩ := List.cons.inj (comma.symm.trans comma')
        exact read

/-- At the end no items are left, whether any was read or not. -/
theorem pending_nil (fuel : Nat) (first : Bool) (behind : List Char) :
    Pending fuel (']' :: behind) first [] behind := by
  have closes : skipBlank (']' :: behind) = ']' :: behind := skipBlank_cons (by decide) behind
  cases first with
  | true => exact .all (.closed closes)
  | false => exact .others (.last closes : Continued _ _ .null _ _ _)

/-- **The slots of an array are filled in order** with the items that it is read as. -/
theorem readItems_slot (read : readItems first fields s = some (slots, rest))
    (pending : Pending fuel s first items rest') :
    rest = rest' ∧ ∀ i, slotAt slots i = items[i]?.map normalize := by
  induction fields generalizing first s slots rest fuel items with
  | nil =>
    rw [Record.readItems] at read
    split at read
    next closes =>
      obtain ⟨rfl, rfl⟩ := Prod.mk.inj (Option.some.inj read)
      obtain ⟨rfl, rfl⟩ := pending.closed closes
      exact ⟨rfl, fun _ => rfl⟩
    next => cases read
  | cons f fs ih =>
    cases itemsStep_of_readItems read with
    | missing closes others =>
      obtain ⟨rfl, rfl⟩ := pending.closed closes
      obtain ⟨rfl, filled⟩ := ih others (pending_nil fuel first rest')
      refine ⟨rfl, fun i => ?_⟩
      cases i with
      | zero => rfl
      | succ i => exact filled i
    | given place front others =>
      have whole := pending.readItems place
      cases fuel with
      | zero => cases whole
      | succ fuel =>
        obtain ⟨value, _, value', later⟩ := readItems_eq_some_iff.1 whole
        obtain ⟨rfl, equal⟩ := readValue_agree front value'
        obtain rfl := equal rfl
        obtain ⟨items', rfl⟩ : ∃ items', items = _ :: items' := by
          cases later <;> exact ⟨_, rfl⟩
        obtain ⟨rfl, filled⟩ := ih others (.others later)
        refine ⟨rfl, fun i => ?_⟩
        cases i with
        | zero => rfl
        | succ i => exact filled i

end Arrays

/-! ## §3 — whole texts -/

/-- What is read at the front of a text fills its slots from the value that is read there. -/
theorem slotAt_readRecord (only : Bears fields i name) {fuel : Nat} {value : Json}
    (record : readRecord fields s = some (slots, rest))
    (front : readValue .strict (maxDepth - 1 + 1) (fuel + 1) s = some (value, rest')) :
    slotAt slots i = fieldOf name i value.normalize := by
  unfold readRecord at record
  cases readValue_eq_some_iff.1 front with
  | plain plain =>
    split at record
    next opens => cases (opens ▸ plain).symm.trans (readPlain_bracket (by decide) _)
    next opens => cases (opens ▸ plain).symm.trans (readPlain_bracket (by decide) _)
    next => cases record
  | array opens inside =>
    simp only [opens] at record
    obtain ⟨-, filled⟩ := readItems_slot record (.all inside)
    rw [filled, normalize, normalizeItems_eq_map, fieldOf, List.getElem?_map]
  | @object _ members _ _ opens inside =>
    simp only [opens] at record
    have filled : (slotAt slots i).toList = valuesOf name (normalizeMembers members) := by
      cases inside with
      | closed closes =>
        simp only [closes] at record
        obtain ⟨_, whole, same⟩ := Option.map_eq_some_iff.1 record
        obtain ⟨rfl, -⟩ := Prod.mk.inj same
        rw [← complete_eq_some whole, slotAt_blank]
        rfl
      | filled unclosed whole =>
        split at record
        next closes => exact absurd closes (unclosed _)
        next =>
          obtain ⟨⟨all, _⟩, given, record⟩ := Option.bind_eq_some_iff.1 record
          obtain ⟨_, complete, record⟩ := Option.bind_eq_some_iff.1 record
          obtain ⟨rfl, -⟩ := Prod.mk.inj (Option.some.inj record)
          have blank : i < (blank fields).length := by
            rw [Record.blank, List.length_map]
            exact only.lt
          obtain ⟨-, filled⟩ := readMembers_slot only blank given whole
          rw [← complete_eq_some complete, filled, slotAt_blank]
          rfl
    -- A slot holds one value at most, so it is also the last one that is given.
    rw [normalize, fieldOf, lookup_sortMembers_eq_getLast?, ← filled]
    cases slotAt slots i <;> rfl

/-- **A record that is read from a text holds what the value that the text is has for its fields.** -/
theorem slotAt_ofText (only : Bears fields i name) {text : String} {json : Json}
    (taken : ofText fields text = some slots) (read : Json.read? text = some json) :
    slotAt slots i = fieldOf name i json := by
  obtain ⟨⟨slots', _⟩, record, ended⟩ := Option.bind_eq_some_iff.1 taken
  simp only at ended
  split at ended
  next =>
    obtain rfl := Option.some.inj ended
    unfold Json.read? at read
    split at read
    next front =>
      split at read
      next =>
        obtain rfl := Option.some.inj read
        exact slotAt_readRecord only record front
      next => cases read
    next => cases read
  next => cases ended

end Record

end Gateway.Json
