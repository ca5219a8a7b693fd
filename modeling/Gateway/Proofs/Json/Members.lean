import Gateway.Json.Basic
import Mathlib.Data.String.Basic

/-!
# Members of an object as a finite map

The members of an object stand in the order of their keys, one for each key. Under that order the look
up says everything: `Sorted.ext`, two lists of members in order that agree on every look up are the same
list. Each operation on members then has two laws, that it keeps the order and what it does to the look
up, and no proof elsewhere has to look at the list itself.
-/

namespace Gateway.Json

/-! ## §1 — members in order -/

/-- The members stand in the strict order of their keys, so no key has two of them. -/
def Sorted (members : List (String × Json)) : Prop :=
  members.Pairwise fun a b => a.1 < b.1

theorem Sorted.nil : Sorted [] := List.Pairwise.nil

theorem sorted_cons {key : String} {value : Json} {rest : List (String × Json)} :
    Sorted ((key, value) :: rest) ↔ (∀ m ∈ rest, key < m.1) ∧ Sorted rest :=
  List.pairwise_cons

theorem lookup_cons_eq (key k : String) (value : Json) (rest : List (String × Json)) :
    ((k, value) :: rest).lookup key = if key = k then some value else rest.lookup key := by
  rw [List.lookup_cons]
  by_cases h : key = k
  · simp [h]
  · rw [beq_false_of_ne h, if_neg h]

/-- A key below all others is not among them. -/
theorem lookup_eq_none_of_lt {key : String} {members : List (String × Json)}
    (below : ∀ m ∈ members, key < m.1) : members.lookup key = none := by
  rw [List.lookup_eq_none_iff]
  intro m hm
  simpa using (below m hm).ne

/-- What comes before the first member is not there. -/
theorem Sorted.lookup_eq_none {m : String × Json} {rest : List (String × Json)}
    (h : Sorted (m :: rest)) {key : String} (before : key < m.1) : (m :: rest).lookup key = none := by
  apply lookup_eq_none_of_lt
  intro n hn
  rcases List.mem_cons.1 hn with rfl | hn
  · exact before
  · exact before.trans ((sorted_cons.1 h).1 n hn)

/-- **Members in order are determined by their look ups.** -/
theorem Sorted.ext {a b : List (String × Json)} (ha : Sorted a) (hb : Sorted b)
    (same : ∀ key, a.lookup key = b.lookup key) : a = b := by
  induction a generalizing b with
  | nil =>
    cases b with
    | nil => rfl
    | cons m rest =>
      obtain ⟨k, v⟩ := m
      simpa using same k
  | cons m as ih =>
    obtain ⟨k, v⟩ := m
    cases b with
    | nil => simpa using same k
    | cons n bs =>
      obtain ⟨l, w⟩ := n
      obtain ⟨ka, sa⟩ := sorted_cons.1 ha
      obtain ⟨lb, sb⟩ := sorted_cons.1 hb
      -- The first keys agree: the smaller one would be missing on the other side.
      have heads : k = l := by
        rcases lt_trichotomy k l with lt | eq | gt
        · have missing : ((l, w) :: bs).lookup k = none := hb.lookup_eq_none lt
          simpa [missing] using same k
        · exact eq
        · have missing : ((k, v) :: as).lookup l = none := ha.lookup_eq_none gt
          simpa [missing] using (same l).symm
      subst heads
      have values : v = w := by simpa using same k
      subst values
      refine congrArg _ (ih sa sb fun key => ?_)
      by_cases h : key = k
      · subst h
        rw [lookup_eq_none_of_lt ka, lookup_eq_none_of_lt lb]
      · have rest := same key
        rwa [lookup_cons_eq, lookup_cons_eq, if_neg h, if_neg h] at rest

/-! ## §2 — putting a member in its place -/

/-- After an insertion a key has the new value, and every other key the one it had. -/
theorem lookup_insertMember (key k : String) (value : Json) (members : List (String × Json)) :
    (insertMember key value members).lookup k =
      if k = key then some value else members.lookup k := by
  induction members with
  | nil => rw [insertMember, lookup_cons_eq]
  | cons m rest ih =>
    obtain ⟨l, w⟩ := m
    rw [insertMember]
    split
    next => rw [lookup_cons_eq]
    next =>
      split
      next same =>
        subst same
        rw [lookup_cons_eq, lookup_cons_eq]
        split <;> rfl
      next differs =>
        rw [lookup_cons_eq, ih, lookup_cons_eq]
        by_cases h : k = l
        · subst h
          rw [if_pos rfl, if_neg (Ne.symm differs), if_pos rfl]
        · rw [if_neg h, if_neg h]

/-- An insertion brings in no key but its own. -/
theorem mem_insertMember {key : String} {value : Json} {m : String × Json}
    {members : List (String × Json)} (h : m ∈ insertMember key value members) :
    m = (key, value) ∨ m ∈ members := by
  induction members with
  | nil => simpa [insertMember] using h
  | cons n rest ih =>
    rw [insertMember] at h
    split at h
    · simpa using h
    · split at h
      · rcases List.mem_cons.1 h with h | h
        · exact Or.inl h
        · exact Or.inr (List.mem_cons_of_mem _ h)
      · rcases List.mem_cons.1 h with h | h
        · exact Or.inr (h ▸ List.mem_cons_self)
        · exact (ih h).imp_right (List.mem_cons_of_mem _)

/-- An insertion keeps the order. -/
theorem Sorted.insertMember {members : List (String × Json)} (h : Sorted members) (key : String)
    (value : Json) : Sorted (insertMember key value members) := by
  induction members with
  | nil => exact List.pairwise_singleton _ _
  | cons m rest ih =>
    obtain ⟨l, w⟩ := m
    obtain ⟨below, sorted⟩ := sorted_cons.1 h
    rw [Json.insertMember]
    split
    next lt =>
      refine sorted_cons.2 ⟨fun m hm => ?_, h⟩
      rcases List.mem_cons.1 hm with rfl | hm
      · exact lt
      · exact lt.trans (below m hm)
    next notLt =>
      split
      next same => exact sorted_cons.2 ⟨same ▸ below, sorted⟩
      next differs =>
        have gt : l < key := lt_of_le_of_ne (not_lt.1 notLt) (Ne.symm differs)
        refine sorted_cons.2 ⟨fun m hm => ?_, ih sorted⟩
        rcases mem_insertMember hm with rfl | hm
        · exact gt
        · exact below m hm

/-! ## §3 — bringing members into order -/

/-- The values that members give a key, one after the other. -/
def valuesOf (key : String) (members : List (String × Json)) : List Json :=
  members.filterMap fun m => if m.1 = key then some m.2 else none

theorem valuesOf_cons (key : String) (m : String × Json) (rest : List (String × Json)) :
    valuesOf key (m :: rest) = if m.1 = key then m.2 :: valuesOf key rest else valuesOf key rest := by
  rw [valuesOf, List.filterMap_cons]
  split <;> simp_all [valuesOf]

/-- A key that is given once at most is looked up as it is given. -/
theorem getLast?_valuesOf {key : String} {members : List (String × Json)}
    (nodup : (members.map (·.1)).Nodup) : (valuesOf key members).getLast? = members.lookup key := by
  induction members with
  | nil => rfl
  | cons m rest ih =>
    rw [List.map_cons, List.nodup_cons] at nodup
    rw [valuesOf_cons, lookup_cons_eq]
    by_cases h : key = m.1
    · subst h
      have absent : valuesOf m.1 rest = [] := by
        rw [valuesOf, List.filterMap_eq_nil_iff]
        intro n hn
        have other : n.1 ≠ m.1 := fun e => nodup.1 (e ▸ List.mem_map_of_mem hn)
        exact if_neg other
      rw [if_pos rfl, if_pos rfl, absent, List.getLast?_singleton]
    · rw [if_neg h, if_neg (Ne.symm h), ih nodup.2]

/-- Members brought into order behind members that are in order already. -/
theorem lookup_foldl_insertMember (members start : List (String × Json)) (key : String) :
    (members.foldl (fun sorted m => insertMember m.1 m.2 sorted) start).lookup key =
      (valuesOf key members).getLast?.or (start.lookup key) := by
  induction members generalizing start with
  | nil => rfl
  | cons m rest ih =>
    rw [List.foldl_cons, ih, lookup_insertMember, valuesOf_cons]
    by_cases h : key = m.1
    · subst h
      rw [if_pos rfl, if_pos rfl, List.getLast?_cons]
      cases (valuesOf m.1 rest).getLast? <;> rfl
    · rw [if_neg h, if_neg (Ne.symm h)]

/-- **The last value of a key counts** when members are brought into order. -/
theorem lookup_sortMembers_eq_getLast? (members : List (String × Json)) (key : String) :
    (sortMembers members).lookup key = (valuesOf key members).getLast? :=
  (lookup_foldl_insertMember members [] key).trans Option.or_none

/-- Bringing members with distinct keys into order changes no look up. -/
theorem lookup_sortMembers {members : List (String × Json)} (nodup : (members.map (·.1)).Nodup)
    (key : String) : (sortMembers members).lookup key = members.lookup key :=
  (lookup_sortMembers_eq_getLast? members key).trans (getLast?_valuesOf nodup)

/-- Members that were brought into order are in order. -/
theorem sorted_sortMembers (members : List (String × Json)) : Sorted (sortMembers members) := by
  have keeps (start : List (String × Json)) (h : Sorted start) :
      Sorted (members.foldl (fun sorted m => insertMember m.1 m.2 sorted) start) := by
    induction members generalizing start with
    | nil => exact h
    | cons m rest ih => exact ih _ (h.insertMember m.1 m.2)
  exact keeps [] .nil

/-! ## §4 — taking a member away -/

/-- Taking a key away keeps the order. -/
theorem Sorted.filter {members : List (String × Json)} (h : Sorted members)
    (p : String × Json → Bool) : Sorted (members.filter p) :=
  List.Pairwise.filter p h

/-- After a removal a key has no value, and every other key the one it had. -/
theorem lookup_filter_ne (key k : String) (members : List (String × Json)) :
    (members.filter fun m => m.1 ≠ key).lookup k =
      if k = key then none else members.lookup k := by
  induction members with
  | nil => simp
  | cons m rest ih =>
    rw [lookup_cons_eq]
    by_cases gone : m.1 = key
    · rw [List.filter_cons_of_neg (by simpa using gone), ih, gone]
      split <;> rfl
    · rw [List.filter_cons_of_pos (by simpa using gone), lookup_cons_eq, ih]
      by_cases h : k = key
      · subst h
        simp [Ne.symm gone]
      · simp [h]

end Gateway.Json
