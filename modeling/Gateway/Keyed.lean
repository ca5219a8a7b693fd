/-!
# Keyed lists

A finite map as a list of entries with distinct keys, in the order in which the keys came in. The look
up `get?` says all there is to say about the content: `get?_insert` and `get?_erase` give it after each
operation, and `mem_entries_iff` ties it to the entries.
-/

namespace Gateway

/-- Entries with distinct keys. -/
structure Keyed (κ α : Type) where
  entries : List (κ × α)
  nodup : (entries.map (·.1)).Nodup := by simp
deriving Repr

namespace Keyed

variable {κ α : Type}

instance : Inhabited (Keyed κ α) := ⟨⟨[], by simp⟩⟩

/-- No entry. -/
def empty : Keyed κ α := ⟨[], by simp⟩

/-- The keys in order. -/
def keys (t : Keyed κ α) : List κ :=
  t.entries.map (·.1)

/-- The values in order. -/
def values (t : Keyed κ α) : List α :=
  t.entries.map (·.2)

def isEmpty (t : Keyed κ α) : Bool :=
  t.entries.isEmpty

def size (t : Keyed κ α) : Nat :=
  t.entries.length

variable [DecidableEq κ]

/-- The value of a key among entries. -/
def find? (key : κ) : List (κ × α) → Option α
  | [] => none
  | (k, a) :: rest => if k = key then some a else find? key rest

/-- The value of a key. -/
def get? (t : Keyed κ α) (key : κ) : Option α :=
  find? key t.entries

/-- There is an entry of this key. -/
def contains (t : Keyed κ α) (key : κ) : Bool :=
  (t.get? key).isSome

/-- Put a value in place of the one of the same key, or behind all entries. -/
def put (key : κ) (a : α) : List (κ × α) → List (κ × α)
  | [] => [(key, a)]
  | (k, b) :: rest => if k = key then (key, a) :: rest else (k, b) :: put key a rest

omit [DecidableEq κ] in
theorem mem_keys_iff {entries : List (κ × α)} {key : κ} :
    key ∈ entries.map (·.1) ↔ ∃ a, (key, a) ∈ entries := by
  simp

theorem mem_keys_put {entries : List (κ × α)} {key k : κ} {a : α} :
    k ∈ (put key a entries).map (·.1) ↔ k = key ∨ k ∈ entries.map (·.1) := by
  induction entries with
  | nil => simp [put]
  | cons e rest ih =>
    rw [put]
    split
    next h => simp [h]
    next h =>
      rw [List.map_cons, List.mem_cons, ih, List.map_cons, List.mem_cons]
      constructor
      · rintro (h | h | h) <;> simp [h]
      · rintro (h | h | h) <;> simp [h]

theorem nodup_put {entries : List (κ × α)} (key : κ) (a : α)
    (h : (entries.map (·.1)).Nodup) : ((put key a entries).map (·.1)).Nodup := by
  induction entries with
  | nil => simp [put]
  | cons e rest ih =>
    rw [List.map_cons, List.nodup_cons] at h
    rw [put]
    split
    next same =>
      rw [List.map_cons, List.nodup_cons]
      exact same ▸ h
    next differs =>
      rw [List.map_cons, List.nodup_cons, mem_keys_put]
      exact ⟨fun hm => hm.elim differs h.1, ih h.2⟩

/-- The map with a value for a key. -/
def insert (t : Keyed κ α) (key : κ) (a : α) : Keyed κ α :=
  ⟨put key a t.entries, nodup_put key a t.nodup⟩

/-- The map without a key. -/
def erase (t : Keyed κ α) (key : κ) : Keyed κ α :=
  ⟨t.entries.filter (·.1 ≠ key),
    t.nodup.sublist ((List.filter_sublist (p := fun e : κ × α => decide (e.1 ≠ key))).map (·.1))⟩

/-! ## Laws -/

theorem find?_eq_some_iff {entries : List (κ × α)} (h : (entries.map (·.1)).Nodup) {key : κ} {a : α} :
    find? key entries = some a ↔ (key, a) ∈ entries := by
  induction entries with
  | nil => simp [find?]
  | cons e rest ih =>
    obtain ⟨k, b⟩ := e
    rw [List.map_cons, List.nodup_cons, mem_keys_iff] at h
    rw [find?]
    split
    next same =>
      subst same
      simp only [Option.some.injEq, List.mem_cons, Prod.mk.injEq, true_and]
      exact ⟨fun e => Or.inl e.symm, fun e => e.elim Eq.symm fun hm => absurd ⟨a, hm⟩ h.1⟩
    next differs =>
      rw [ih h.2, List.mem_cons, Prod.mk.injEq]
      exact ⟨Or.inr, fun e => e.elim (fun e => absurd e.1.symm differs) id⟩

/-- The entries are the keys with their values. -/
theorem mem_entries_iff {t : Keyed κ α} {key : κ} {a : α} :
    (key, a) ∈ t.entries ↔ t.get? key = some a :=
  (find?_eq_some_iff t.nodup).symm

@[simp]
theorem get?_empty (key : κ) : (empty : Keyed κ α).get? key = none := rfl

theorem find?_put (key k : κ) (a : α) (entries : List (κ × α)) :
    find? k (put key a entries) = if k = key then some a else find? k entries := by
  induction entries with
  | nil =>
    by_cases h : k = key
    · simp [put, find?, h]
    · simp [put, find?, h, Ne.symm h]
  | cons e rest ih =>
    obtain ⟨l, b⟩ := e
    by_cases same : l = key
    · subst same
      by_cases h : k = l
      · simp [put, find?, h]
      · simp [put, find?, h, Ne.symm h]
    · by_cases h : l = k
      · subst h
        simp [put, find?, same]
      · simp [put, find?, same, h, ih]

/-- After an insertion a key has the new value, and every other key the one it had. -/
theorem get?_insert (t : Keyed κ α) (key k : κ) (a : α) :
    (t.insert key a).get? k = if k = key then some a else t.get? k :=
  find?_put key k a t.entries

theorem find?_filter_ne (key k : κ) (entries : List (κ × α)) :
    find? k (entries.filter (·.1 ≠ key)) = if k = key then none else find? k entries := by
  induction entries with
  | nil => simp [find?]
  | cons e rest ih =>
    obtain ⟨l, b⟩ := e
    by_cases same : l = key
    · subst same
      by_cases h : k = l
      · simp_all
      · simp [find?, h, Ne.symm h] at ih ⊢
        exact ih
    · by_cases h : l = k
      · subst h
        simp [find?, same]
      · simp [find?, same, h] at ih ⊢
        exact ih

/-- After an erasure a key has no value, and every other key the one it had. -/
theorem get?_erase (t : Keyed κ α) (key k : κ) :
    (t.erase key).get? k = if k = key then none else t.get? k :=
  find?_filter_ne key k t.entries

theorem contains_iff {t : Keyed κ α} {key : κ} : t.contains key = true ↔ key ∈ t.keys := by
  unfold contains keys
  rw [mem_keys_iff, Option.isSome_iff_exists]
  exact exists_congr fun _ => mem_entries_iff.symm

end Keyed

end Gateway
