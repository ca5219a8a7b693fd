import Gateway.Json.Record
import Gateway.Proofs.Json.RoundTrip

/-!
# What the slots of a record hold

Reading a record from an array takes each field from the item in its place (`slotAt_ofItems`), and from
an object, from the member of its name. Since a field is given at most once, it does not matter that a
look up takes the first member and reading goes through all of them (`slotAt_putMembers`).

The readers of members and items are inverted once, as the ways in which one step of theirs succeeds
(`memberStep_of_readMember`, `itemsStep_of_readItems`).

What a record takes from a text is canonical (`canonical_ofText`). The text of an object whose members all
belong to fields is read as the object itself is (`ofText_text`).
-/

namespace Gateway.Json.Record

/-! ## §1 — from a value -/

/-- The slot of a place, empty where there is none. -/
def slotAt (slots : Slots) (i : Nat) : Option Json :=
  slots[i]?.join

/-- **A slot is filled from the item in its place.** -/
theorem slotAt_ofItems {fields : List Field} {items : List Json} {slots : Slots}
    (read : ofItems fields items = some slots) (i : Nat) : slotAt slots i = items[i]? := by
  induction fields generalizing items slots i with
  | nil =>
    cases items with
    | nil =>
      obtain rfl := Option.some.inj read
      rfl
    | cons => cases read
  | cons f fs ih =>
    cases items with
    | nil =>
      rw [ofItems] at read
      split at read
      · obtain ⟨rest, more, rfl⟩ := Option.map_eq_some_iff.1 read
        cases i with
        | zero => rfl
        | succ i => exact ih more i
      · cases read
    | cons value items =>
      rw [ofItems] at read
      split at read
      · obtain ⟨rest, more, rfl⟩ := Option.map_eq_some_iff.1 read
        cases i with
        | zero => rfl
        | succ i => exact ih more i
      · cases read

theorem put_eq_some {slots slots' : Slots} {i : Nat} {value : Json}
    (given : put slots i value = some slots') :
    slotAt slots i = none ∧ slots' = slots.set i (some value) := by
  unfold put at given
  split at given
  next free => exact ⟨Option.isNone_iff_eq_none.1 free, (Option.some.inj given).symm⟩
  next => cases given

theorem complete_eq_some {fields : List Field} {slots slots' : Slots}
    (whole : complete fields slots = some slots') : slots = slots' := by
  unfold complete at whole
  split at whole
  next => exact Option.some.inj whole
  next => cases whole

/-- The field in a place is given under one name alone. -/
def Bears (fields : List Field) (i : Nat) (name : String) : Prop :=
  ∀ k, (∃ f, fieldAt? fields k = some (i, f)) ↔ k = name

/-- **A field bears its name** when it has no other, and no field before it has this one. -/
theorem bears_append (before : List Field) {f : Field} {after : List Field} {name : String}
    (single : f.names = [name]) (first : ∀ g ∈ before, name ∉ g.names) :
    Bears (before ++ f :: after) before.length name := by
  intro k
  unfold fieldAt?
  constructor
  · rintro ⟨_, found⟩
    obtain ⟨⟨g, _⟩, here, same⟩ := Option.map_eq_some_iff.1 found
    obtain ⟨rfl, rfl⟩ := Prod.mk.inj same
    have place := List.mk_mem_zipIdx_iff_getElem?.1 (List.mem_of_find?_eq_some here)
    obtain rfl : f = g := by simpa using place
    simpa [single] using List.find?_some here
  · rintro rfl
    refine ⟨f, Option.map_eq_some_iff.2 ⟨(f, before.length), ?_, rfl⟩⟩
    rw [List.find?_eq_some_iff_append]
    refine ⟨by simp [single], before.zipIdx, after.zipIdx (before.length + 1), ?_, ?_⟩
    · rw [List.zipIdx_append, List.zipIdx_cons, Nat.zero_add]
    · rintro ⟨g, i⟩ mem
      have earlier := first g (List.mem_of_getElem? (List.mk_mem_zipIdx_iff_getElem?.1 mem))
      simpa using earlier

theorem Bears.lt {fields : List Field} {name : String} {i : Nat} (bears : Bears fields i name) :
    i < fields.length := by
  obtain ⟨f, found⟩ := (bears name).2 rfl
  obtain ⟨⟨g, _⟩, here, same⟩ := Option.map_eq_some_iff.1 found
  obtain ⟨rfl, rfl⟩ := Prod.mk.inj same
  have place := List.mk_mem_zipIdx_iff_getElem?.1 (List.mem_of_find?_eq_some here)
  exact (List.getElem?_eq_some_iff.1 place).1

/-- A name leads to the place just when it is the one that the field there bears. -/
theorem Bears.eq_iff {fields : List Field} {name k : String} {i j : Nat} {f : Field}
    (bears : Bears fields i name) (found : fieldAt? fields k = some (j, f)) : j = i ↔ k = name := by
  rw [← bears k, found]
  constructor
  · rintro rfl
    exact ⟨f, rfl⟩
  · rintro ⟨g, same⟩
    exact (Prod.mk.inj (Option.some.inj same)).1

/-- What leads nowhere is not this name. -/
theorem Bears.ne {fields : List Field} {name k : String} {i : Nat} (bears : Bears fields i name)
    (unknown : fieldAt? fields k = none) : k ≠ name := by
  intro same
  obtain ⟨f, here⟩ := (bears k).2 same
  cases unknown.symm.trans here

/-- **A slot is filled from the member of its name**, when the field has one name alone. -/
theorem slotAt_putMembers {fields : List Field} {name : String} {i : Nat} (only : Bears fields i name)
    {members : List (String × Json)} {slots slots' : Slots} (bound : i < slots.length)
    (read : members.foldlM (putMember fields) slots = some slots') :
    slotAt slots' i = (slotAt slots i).or (members.lookup name) := by
  induction members generalizing slots with
  | nil =>
    obtain rfl := Option.some.inj read
    exact Option.or_none.symm
  | cons member rest ih =>
    obtain ⟨k, value⟩ := member
    rw [List.foldlM_cons] at read
    obtain ⟨next, taken, read⟩ := Option.bind_eq_some_iff.1 read
    rw [putMember] at taken
    cases found : fieldAt? fields k with
    | none =>
      rw [found] at taken
      obtain rfl := Option.some.inj taken
      rw [ih bound read, lookup_cons_eq, if_neg (only.ne found).symm]
    | some place =>
      obtain ⟨j, f⟩ := place
      rw [found] at taken
      simp only at taken
      split at taken
      next =>
        obtain ⟨free, rfl⟩ := put_eq_some taken
        rw [ih (by rwa [List.length_set]) read, lookup_cons_eq]
        by_cases here : j = i
        · rw [if_pos ((only.eq_iff found).1 here).symm]
          subst here
          rw [free]
          simp [slotAt, List.getElem?_set_self bound]
        · rw [if_neg fun same => here ((only.eq_iff found).2 same.symm), slotAt, List.getElem?_set_ne here]
          rfl
      next => cases taken

/-! ## §2 — one step of the reader -/

variable {fields : List Field} {slots slots' : Slots}

/-- **The ways to read the value behind a key**: past a member that belongs to no field, or into the slot
of its field. -/
inductive MemberStep (fields : List Field) (slots : Slots) (key s : List Char) :
    Slots → List Char → Prop
  | unknown {front rest : List Char} (colon : skipBlank s = ':' :: front)
      (unknown : fieldAt? fields (String.ofList key) = none) (passed : skipFront front = some rest) :
    MemberStep fields slots key s slots rest
  | known {front rest : List Char} {i : Nat} {f : Field} {value : Json}
      (colon : skipBlank s = ':' :: front) (found : fieldAt? fields (String.ofList key) = some (i, f))
      (read : readFront (maxDepth - 1) front = some (value, rest)) (free : slotAt slots i = none) :
    MemberStep fields slots key s (slots.set i (some value.normalize)) rest

theorem memberStep_of_readMember {key s rest : List Char}
    (read : readMember fields slots key s = some (slots', rest)) :
    MemberStep fields slots key s slots' rest := by
  unfold readMember at read
  split at read
  next colon =>
    split at read
    next unknown =>
      obtain ⟨_, passed, same⟩ := Option.map_eq_some_iff.1 read
      obtain ⟨rfl, rfl⟩ := Prod.mk.inj same
      exact .unknown colon unknown passed
    next found =>
      obtain ⟨⟨value, _⟩, front, read⟩ := Option.bind_eq_some_iff.1 read
      simp only at read
      split at read
      next =>
        obtain ⟨next, given, read⟩ := Option.bind_eq_some_iff.1 read
        obtain ⟨rfl, rfl⟩ := Prod.mk.inj (Option.some.inj read)
        obtain ⟨free, rfl⟩ := put_eq_some given
        exact .known colon found front free
      next => cases read
  next => cases read

/-- Where the next item of an array stands: behind the blanks if it is the first, else behind a comma. -/
inductive ItemAt (s : List Char) : Bool → List Char → Prop
  | first (opens : ∀ behind, skipBlank s ≠ ']' :: behind) : ItemAt s true (skipBlank s)
  | later {front : List Char} (comma : skipBlank s = ',' :: front) : ItemAt s false front

/-- **The ways to read the fields of an array that are left**: the next one is missing, or it is given. -/
inductive ItemsStep (first : Bool) (fs : List Field) (s : List Char) : Slots → List Char → Prop
  | missing {behind rest : List Char} {more : Slots} (closes : skipBlank s = ']' :: behind)
      (others : readItems first fs (']' :: behind) = some (more, rest)) :
    ItemsStep first fs s (none :: more) rest
  | given {front behind rest : List Char} {value : Json} {more : Slots} (place : ItemAt s first front)
      (read : readFront (maxDepth - 1) front = some (value, behind))
      (others : readItems false fs behind = some (more, rest)) :
    ItemsStep first fs s (some value.normalize :: more) rest

theorem exists_of_item {f : Field} {fs : List Field} {s rest : List Char}
    (read : readItems.item f fs s = some (slots, rest)) :
    ∃ value behind more, readFront (maxDepth - 1) s = some (value, behind) ∧
      readItems false fs behind = some (more, rest) ∧ slots = some value.normalize :: more := by
  unfold readItems.item at read
  obtain ⟨⟨value, behind⟩, front, read⟩ := Option.bind_eq_some_iff.1 read
  simp only at read
  split at read
  next =>
    obtain ⟨⟨more, _⟩, others, read⟩ := Option.bind_eq_some_iff.1 read
    obtain ⟨rfl, rfl⟩ := Prod.mk.inj (Option.some.inj read)
    exact ⟨value, behind, more, front, others, rfl⟩
  next => cases read

theorem itemsStep_of_readItems {first : Bool} {f : Field} {fs : List Field} {s rest : List Char}
    (read : readItems first (f :: fs) s = some (slots, rest)) : ItemsStep first fs s slots rest := by
  rw [readItems] at read
  split at read
  next closes =>
    split at read
    next =>
      obtain ⟨⟨more, _⟩, others, same⟩ := Option.map_eq_some_iff.1 read
      obtain ⟨rfl, rfl⟩ := Prod.mk.inj same
      exact .missing closes others
    next => cases read
  next comma =>
    split at read
    next => cases read
    next later =>
      obtain rfl : first = false := Bool.not_eq_true _ ▸ later
      obtain ⟨value, _, more, front, others, rfl⟩ := exists_of_item read
      exact .given (.later comma) front others
  next opens _ =>
    split at read
    next isFirst =>
      obtain rfl : first = true := isFirst
      obtain ⟨value, _, more, front, others, rfl⟩ := exists_of_item read
      exact .given (.first opens) front others
    next => cases read

/-! ## §3 — what comes from a text is canonical -/

/-- What has been given so far is canonical. -/
def Filed (slots : Slots) : Prop :=
  ∀ value, some value ∈ slots → value.Canonical

theorem filed_blank (fields : List Field) : Filed (blank fields) := by
  intro value mem
  obtain ⟨_, -, none⟩ := List.mem_map.1 mem
  cases none

theorem Filed.set (filed : Filed slots) (i : Nat) {value : Json} (canonical : value.Canonical) :
    Filed (slots.set i (some value)) := by
  intro other mem
  rcases List.mem_or_eq_of_mem_set mem with before | same
  · exact filed other before
  · exact Option.some.inj same ▸ canonical

theorem Filed.cons {slot : Option Json} (filed : Filed slots)
    (canonical : ∀ value, slot = some value → value.Canonical) : Filed (slot :: slots) := by
  intro value mem
  rcases List.mem_cons.1 mem with same | mem
  · exact canonical value same.symm
  · exact filed value mem

theorem filed_readMember (filed : Filed slots) {key s rest : List Char}
    (read : readMember fields slots key s = some (slots', rest)) : Filed slots' := by
  cases memberStep_of_readMember read with
  | unknown => exact filed
  | known _ _ read => exact filed.set _ (canonical_readFront read)

theorem filed_readMembers (filed : Filed slots) {fuel : Nat} {s rest : List Char}
    (read : readMembers fields slots fuel s = some (slots', rest)) : Filed slots' := by
  induction fuel generalizing slots s with
  | zero => cases read
  | succ fuel ih =>
    rw [readMembers] at read
    split at read
    next =>
      obtain ⟨⟨key, _⟩, -, read⟩ := Option.bind_eq_some_iff.1 read
      obtain ⟨⟨next, _⟩, member, read⟩ := Option.bind_eq_some_iff.1 read
      have kept := filed_readMember filed member
      simp only at read
      split at read
      next =>
        obtain ⟨rfl, -⟩ := Prod.mk.inj (Option.some.inj read)
        exact kept
      next => exact ih kept read
      next => cases read
    next => cases read

theorem filed_readItems {first : Bool} {s rest : List Char}
    (read : readItems first fields s = some (slots, rest)) : Filed slots := by
  induction fields generalizing first s rest slots with
  | nil =>
    rw [readItems] at read
    split at read
    next =>
      obtain ⟨rfl, -⟩ := Prod.mk.inj (Option.some.inj read)
      exact fun value mem => absurd mem List.not_mem_nil
    next => cases read
  | cons f fs ih =>
    cases itemsStep_of_readItems read with
    | missing _ others => exact (ih others).cons fun _ same => by cases same
    | given _ front others =>
      exact (ih others).cons fun _ same => Option.some.inj same ▸ canonical_readFront front

/-- **What a record takes from a text is canonical.** -/
theorem canonical_ofText {text : String} (read : ofText fields text = some slots) : Filed slots := by
  obtain ⟨⟨all, _⟩, record, read⟩ := Option.bind_eq_some_iff.1 read
  simp only at read
  split at read
  next =>
    obtain rfl := Option.some.inj read
    unfold readRecord at record
    split at record
    next =>
      split at record
      next =>
        obtain ⟨_, whole, same⟩ := Option.map_eq_some_iff.1 record
        obtain ⟨rfl, -⟩ := Prod.mk.inj same
        exact complete_eq_some whole ▸ filed_blank fields
      next =>
        obtain ⟨⟨some, _⟩, members, record⟩ := Option.bind_eq_some_iff.1 record
        obtain ⟨_, whole, record⟩ := Option.bind_eq_some_iff.1 record
        obtain ⟨rfl, -⟩ := Prod.mk.inj (Option.some.inj record)
        exact complete_eq_some whole ▸ filed_readMembers (filed_blank fields) members
    next => exact filed_readItems record
    next => cases record
  next => cases read

/-! ## §4 — the text of an object -/

/-- **A member that a text carries to a field**: the field looks at it, and its value reads back. -/
structure Carried (fields : List Field) (m : String × Json) : Prop where
  known : (fieldAt? fields m.1).isSome = true
  back : m.2.ReadsBack
  ordered : m.2.Everywhere Ordered
  /-- The record itself takes up one level of nesting. -/
  room : m.2.depth ≤ maxDepth - 1

/-- A member is read from its text as it is taken up. -/
theorem readMember_chars {m : String × Json} (carried : Carried fields m) (slots : Slots)
    {rest : List Char} (ends : Ends rest) :
    readMember fields slots m.1.toList (':' :: (m.2.chars ++ rest)) =
      (putMember fields slots m).map fun slots => (slots, rest) := by
  obtain ⟨⟨i, f⟩, place⟩ := Option.isSome_iff_exists.1 carried.known
  -- Each member is read with fuel for all that follows it.
  have enough : 2 * m.2.chars.length ≤ fuelFor (m.2.chars ++ rest) + 1 := by
    rw [fuelFor, List.length_append]
    omega
  have value : readFront (maxDepth - 1) (m.2.chars ++ rest) = some (m.2, rest) :=
    carried.back _ _ rest carried.room enough ends
  rw [readMember, skipBlank_cons (by decide), putMember]
  simp only [String.ofList_toList, place, value, normalize_eq_self carried.ordered, bind, Option.bind]
  split
  · cases put slots i m.2 <;> rfl
  · rfl

/-- A member is read and taken up, and what follows decides whether there are more. -/
theorem readMembers_chars {m : String × Json} (carried : Carried fields m) (slots : Slots) (fuel : Nat)
    {rest : List Char} (ends : Ends rest) :
    readMembers fields slots (fuel + 1) (printString m.1 ++ ':' :: (m.2.chars ++ rest)) =
      (putMember fields slots m).bind fun slots =>
        match skipBlank rest with
        | '\x7d' :: rest => some (slots, rest)
        | ',' :: rest => readMembers fields slots fuel rest
        | _ => none := by
  rw [printString_append, readMembers, skipBlank_cons (by decide)]
  simp only [readChars_flatMap, readMember_chars carried slots ends, bind, Option.bind_some,
    Option.bind_map]
  rfl

/-- **Members are read from their text as they are taken up**, one after the other. -/
theorem readMembers_memberChars {members : List (String × Json)} (filled : members ≠ [])
    (each : ∀ m ∈ members, Carried fields m) (slots : Slots) {fuel : Nat}
    (fuelled : members.length ≤ fuel) (rest : List Char) :
    readMembers fields slots fuel (memberChars members ++ '\x7d' :: rest) =
      (members.foldlM (putMember fields) slots).map fun slots => (slots, rest) := by
  induction members generalizing slots fuel with
  | nil => exact absurd rfl filled
  | cons m members ih =>
    have first := each m List.mem_cons_self
    obtain ⟨fuel, rfl⟩ : ∃ k, fuel = k + 1 := ⟨fuel - 1, by rw [List.length_cons] at fuelled; omega⟩
    rw [List.foldlM_cons]
    cases members with
    | nil =>
      obtain ⟨k, value⟩ := m
      rw [memberChars, List.append_assoc, List.cons_append,
        readMembers_chars first slots fuel (.cons (by decide) rest)]
      cases putMember fields slots (k, value) <;> rfl
    | cons next members =>
      obtain ⟨k, value⟩ := m
      rw [memberChars_cons, List.append_assoc, List.cons_append, List.append_assoc, List.cons_append,
        readMembers_chars first slots fuel (.cons (by decide) _)]
      cases putMember fields slots (k, value) with
      | none => rfl
      | some slots =>
        exact ih (List.cons_ne_nil _ _) (fun m mem => each m (List.mem_cons_of_mem _ mem)) slots
          (Nat.le_of_succ_le_succ fuelled)

/-- The text of members is no shorter than there are members. -/
theorem length_le_memberChars (members : List (String × Json)) :
    members.length ≤ (memberChars members).length := by
  induction members with
  | nil => exact Nat.le_refl 0
  | cons m members ih =>
    obtain ⟨k, value⟩ := m
    cases members with
    | nil =>
      simp only [memberChars, List.length_append, List.length_cons, List.length_nil]
      omega
    | cons next members =>
      rw [memberChars_cons]
      simp only [List.length_append, List.length_cons] at ih ⊢
      omega

/-- **The text of an object is read as the object**, if all its members are carried. -/
theorem ofText_text {members : List (String × Json)} (each : ∀ m ∈ members, Carried fields m) :
    ofText fields (Json.obj members).text = ofValue fields (.obj members) := by
  rw [ofText, Json.text, String.toList_ofList, chars, readRecord, skipBlank_cons (by decide), ofValue]
  cases members with
  | nil =>
    show (complete fields (blank fields)).map _ >>= _ = complete fields (blank fields)
    cases complete fields (blank fields) <;> rfl
  | cons m members =>
    have fuelled : (m :: members).length ≤ (memberChars (m :: members) ++ ['\x7d']).length + 1 := by
      have := length_le_memberChars (m :: members)
      rw [List.length_append]
      omega
    have read := readMembers_memberChars (List.cons_ne_nil m members) each (blank fields) fuelled []
    obtain ⟨cs, quoted⟩ := memberChars_opens m members
    rw [quoted, List.cons_append] at read ⊢
    show (readMembers fields (blank fields) _ _ >>= _) >>= _ = _
    rw [read]
    cases (m :: members).foldlM (putMember fields) (blank fields) with
    | none => rfl
    | some slots =>
      show (complete fields slots >>= _) >>= _ = complete fields slots
      cases complete fields slots <;> rfl

end Gateway.Json.Record
