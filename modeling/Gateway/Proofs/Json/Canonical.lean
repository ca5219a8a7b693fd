import Gateway.Proofs.Binary64.Whole
import Gateway.Proofs.Json.Members
import Gateway.Proofs.Json.Steps

/-!
# Values as reading yields them

A value that was read has its members in order, for every object inside it, and its whole numbers have 64
bits. Such a value is `Canonical`. `Everywhere` says that a value and every value inside it have a property;
`depth` is how deep arrays and objects nest in it.

A canonical value is in order already (`normalize_eq_self`), and what a text is read as is canonical
(`fits_read`, `canonical_readFront`).
-/

namespace Gateway.Json

open Gateway.Binary64 (Fits64)
open Gateway.Text (maxUnsigned64)

/-! ## §1 — what holds everywhere inside a value -/

/-- The value is no array and no object. -/
def IsLeaf : Json → Prop
  | .arr _ | .obj _ => False
  | _ => True

/-- **Induction on values**: a property that an array has when its items have it, and an object when the
values of its members have it. -/
theorem induct {motive : Json → Prop} (leaf : ∀ value : Json, value.IsLeaf → motive value)
    (node : ∀ items, (∀ value ∈ items, motive value) → motive (.arr items))
    (record : ∀ members : List (String × Json), (∀ m ∈ members, motive m.2) → motive (.obj members))
    (value : Json) : motive value :=
  @Json.rec motive (fun items => ∀ value ∈ items, motive value)
    (fun members => ∀ m ∈ members, motive m.2) (fun m => motive m.2)
    (leaf _ trivial) (fun _ => leaf _ trivial) (fun _ => leaf _ trivial) (fun _ => leaf _ trivial)
    (fun _ => leaf _ trivial) node record
    (List.forall_mem_nil _) (fun _ _ first rest => List.forall_mem_cons.2 ⟨first, rest⟩)
    (List.forall_mem_nil _) (fun _ _ first rest => List.forall_mem_cons.2 ⟨first, rest⟩)
    (fun _ _ here => here) value

mutual

/-- The value has a property, and so has every value inside it. -/
def Everywhere (p : Json → Prop) : Json → Prop
  | .arr items => p (.arr items) ∧ EverywhereItems p items
  | .obj members => p (.obj members) ∧ EverywhereMembers p members
  | value => p value

def EverywhereItems (p : Json → Prop) : List Json → Prop
  | [] => True
  | value :: rest => value.Everywhere p ∧ EverywhereItems p rest

def EverywhereMembers (p : Json → Prop) : List (String × Json) → Prop
  | [] => True
  | (_, value) :: rest => value.Everywhere p ∧ EverywhereMembers p rest

end

mutual

/-- How deep arrays and objects nest. -/
def depth : Json → Nat
  | .arr items => itemsDepth items + 1
  | .obj members => membersDepth members + 1
  | _ => 0

def itemsDepth : List Json → Nat
  | [] => 0
  | value :: rest => max value.depth (itemsDepth rest)

def membersDepth : List (String × Json) → Nat
  | [] => 0
  | (_, value) :: rest => max value.depth (membersDepth rest)

end

variable {p : Json → Prop}

theorem everywhereItems_iff {items : List Json} :
    EverywhereItems p items ↔ ∀ value ∈ items, value.Everywhere p := by
  induction items with
  | nil => simp [EverywhereItems]
  | cons value rest ih => simp [EverywhereItems, ih]

theorem everywhereMembers_iff {members : List (String × Json)} :
    EverywhereMembers p members ↔ ∀ m ∈ members, m.2.Everywhere p := by
  induction members with
  | nil => simp [EverywhereMembers]
  | cons m rest ih => simp [EverywhereMembers, ih]

/-- What has a property everywhere has a weaker one everywhere. -/
theorem Everywhere.imp {q : Json → Prop} (weaker : ∀ value, p value → q value) {value : Json}
    (h : value.Everywhere p) : value.Everywhere q := by
  induction value using Json.induct with
  | leaf value isLeaf =>
    cases value with
    | arr | obj => exact isLeaf.elim
    | null | bool | int | float | str => exact weaker _ h
  | node items ih =>
    have each := everywhereItems_iff.1 h.2
    exact ⟨weaker _ h.1, everywhereItems_iff.2 fun value mem => ih value mem (each value mem)⟩
  | record members ih =>
    have each := everywhereMembers_iff.1 h.2
    exact ⟨weaker _ h.1, everywhereMembers_iff.2 fun m mem => ih m mem (each m mem)⟩

theorem itemsDepth_le_iff {items : List Json} {d : Nat} :
    itemsDepth items ≤ d ↔ ∀ value ∈ items, value.depth ≤ d := by
  induction items with
  | nil => simp [itemsDepth]
  | cons value rest ih => simp [itemsDepth, ih]

theorem membersDepth_le_iff {members : List (String × Json)} {d : Nat} :
    membersDepth members ≤ d ↔ ∀ m ∈ members, m.2.depth ≤ d := by
  induction members with
  | nil => simp [membersDepth]
  | cons m rest ih => simp [membersDepth, ih]

/-! ## §2 — canonical values -/

/-- The whole number has 64 bits, or it is none. -/
def Fits : Json → Prop
  | .int n => Fits64 n
  | _ => True

/-- The members stand in order, if there are any. -/
def Ordered : Json → Prop
  | .obj members => Sorted members
  | _ => True

/-- **A value as reading yields it.** -/
structure Canonical (value : Json) : Prop where
  fits : value.Everywhere Fits
  ordered : value.Everywhere Ordered

theorem canonical_null : null.Canonical := ⟨trivial, trivial⟩

theorem canonical_str (s : String) : (str s).Canonical := ⟨trivial, trivial⟩

theorem canonical_int {n : Int} (fits : Fits64 n) : (int n).Canonical := ⟨fits, trivial⟩

theorem canonical_ofOption (s : Option String) : (ofOption s).Canonical := by
  cases s with
  | none => exact canonical_null
  | some s => exact canonical_str s

theorem canonical_arr_iff {items : List Json} :
    (arr items).Canonical ↔ ∀ value ∈ items, value.Canonical := by
  constructor
  · rintro ⟨fits, ordered⟩ value mem
    exact ⟨everywhereItems_iff.1 fits.2 value mem, everywhereItems_iff.1 ordered.2 value mem⟩
  · intro each
    exact ⟨⟨trivial, everywhereItems_iff.2 fun value mem => (each value mem).fits⟩,
      ⟨trivial, everywhereItems_iff.2 fun value mem => (each value mem).ordered⟩⟩

theorem canonical_obj_iff {members : List (String × Json)} :
    (obj members).Canonical ↔ Sorted members ∧ ∀ m ∈ members, m.2.Canonical := by
  constructor
  · rintro ⟨fits, ordered⟩
    exact ⟨ordered.1, fun m mem =>
      ⟨everywhereMembers_iff.1 fits.2 m mem, everywhereMembers_iff.1 ordered.2 m mem⟩⟩
  · rintro ⟨sorted, each⟩
    exact ⟨⟨trivial, everywhereMembers_iff.2 fun m mem => (each m mem).fits⟩,
      ⟨sorted, everywhereMembers_iff.2 fun m mem => (each m mem).ordered⟩⟩

theorem mem_foldl_insertMember {m : String × Json} {members start : List (String × Json)}
    (mem : m ∈ members.foldl (fun sorted m => insertMember m.1 m.2 sorted) start) :
    m ∈ members ∨ m ∈ start := by
  induction members generalizing start with
  | nil => exact Or.inr mem
  | cons n rest ih =>
    rcases ih mem with later | inserted
    · exact Or.inl (List.mem_cons_of_mem n later)
    · rcases mem_insertMember inserted with rfl | before
      · exact Or.inl List.mem_cons_self
      · exact Or.inr before

/-- Bringing members into order makes up none. -/
theorem mem_sortMembers {m : String × Json} {members : List (String × Json)}
    (mem : m ∈ sortMembers members) : m ∈ members :=
  (mem_foldl_insertMember mem).resolve_right List.not_mem_nil

/-- An object is canonical when the values of its members are. -/
theorem canonical_object {members : List (String × Json)} (each : ∀ m ∈ members, m.2.Canonical) :
    (object members).Canonical :=
  canonical_obj_iff.2 ⟨sorted_sortMembers members, fun m mem => each m (mem_sortMembers mem)⟩

theorem canonical_empty : (obj []).Canonical :=
  canonical_obj_iff.2 ⟨.nil, List.forall_mem_nil _⟩

theorem canonical_single {key : String} {value : Json} (canonical : value.Canonical) :
    (obj [(key, value)]).Canonical :=
  canonical_obj_iff.2 ⟨List.pairwise_singleton _ _, by simpa using canonical⟩

/-- A member of a canonical value is canonical. -/
theorem Canonical.member? {value inner : Json} {key : String} (canonical : value.Canonical)
    (found : value.member? key = some inner) : inner.Canonical := by
  cases value with
  | obj members =>
    obtain ⟨before, after, rfl, -⟩ := List.lookup_eq_some_iff.1 found
    exact (canonical_obj_iff.1 canonical).2 (key, inner) (by simp)
  | _ => cases found

/-! ## §3 — bringing a value into order -/

/-- Members in order have keys of their own. -/
theorem Sorted.nodup {members : List (String × Json)} (sorted : Sorted members) :
    (members.map (·.1)).Nodup :=
  List.pairwise_map.2 (sorted.imp fun less => less.ne)

/-- Members in order stay where they are. -/
theorem sortMembers_eq_self {members : List (String × Json)} (sorted : Sorted members) :
    sortMembers members = members :=
  (sorted_sortMembers members).ext sorted fun key => lookup_sortMembers sorted.nodup key

theorem normalizeItems_eq_map (items : List Json) : normalizeItems items = items.map normalize := by
  induction items with
  | nil => rfl
  | cons value rest ih => rw [normalizeItems, ih, List.map_cons]

theorem normalizeMembers_eq_map (members : List (String × Json)) :
    normalizeMembers members = members.map fun m => (m.1, m.2.normalize) := by
  induction members with
  | nil => rfl
  | cons m rest ih => rw [normalizeMembers, ih, List.map_cons]

/-- **A value in order stays as it is.** -/
theorem normalize_eq_self {value : Json} (ordered : value.Everywhere Ordered) :
    value.normalize = value := by
  induction value using induct with
  | leaf value isLeaf =>
    cases value with
    | arr | obj => exact isLeaf.elim
    | null | bool | int | float | str => rfl
  | node items ih =>
    have each := everywhereItems_iff.1 ordered.2
    have same : items.map normalize = items.map id :=
      List.map_congr_left fun value mem => ih value mem (each value mem)
    rw [normalize, normalizeItems_eq_map, same, List.map_id]
  | record members ih =>
    have each := everywhereMembers_iff.1 ordered.2
    have same : members.map (fun m => (m.1, m.2.normalize)) = members.map id :=
      List.map_congr_left fun m mem => Prod.ext rfl (ih m mem (each m mem))
    rw [normalize, normalizeMembers_eq_map, same, List.map_id, sortMembers_eq_self ordered.1]

/-- **A value that was brought into order is canonical**, if its whole numbers have 64 bits. -/
theorem canonical_normalize {value : Json} (fits : value.Everywhere Fits) :
    value.normalize.Canonical := by
  induction value using induct with
  | leaf value isLeaf =>
    cases value with
    | arr | obj => exact isLeaf.elim
    | null | bool | int | float | str => exact ⟨fits, trivial⟩
  | node items ih =>
    have each := everywhereItems_iff.1 fits.2
    rw [normalize, normalizeItems_eq_map, canonical_arr_iff, List.forall_mem_map]
    exact fun value mem => ih value mem (each value mem)
  | record members ih =>
    have each := everywhereMembers_iff.1 fits.2
    rw [normalize, normalizeMembers_eq_map]
    refine canonical_object (List.forall_mem_map.2 ?_)
    exact fun m mem => ih m mem (each m mem)

/-! ## §4 — what the reader yields -/

/-- Digits are gathered as far as 64 bits reach. -/
theorem gather_le {m : Nat} (small : m ≤ maxUnsigned64) (taken : Nat) (ds : List Char) :
    (gather m taken ds).1 ≤ maxUnsigned64 := by
  induction ds generalizing m taken with
  | nil => exact small
  | cons c ds ih =>
    rw [gather]
    split
    next more => exact ih more (taken + 1)
    next => exact small

theorem fits_wholeNumber (negative : Bool) {m : Nat} (small : m ≤ maxUnsigned64) :
    (wholeNumber negative m).Everywhere Fits := by
  unfold maxUnsigned64 at small
  unfold wholeNumber
  split
  · show Fits64 m
    unfold Fits64
    omega
  · split
    · trivial
    next inside =>
      simp only [Bool.or_eq_true, decide_eq_true_eq, not_or] at inside
      show Fits64 (-m)
      unfold Fits64
      omega

theorem fits_approximate {r : Rigour} {negative : Bool} {m : Nat} {e : Int} {value : Json}
    (read : approximate r negative m e = some value) : value.Everywhere Fits := by
  unfold approximate at read
  split at read
  · obtain rfl := Option.some.inj read
    trivial
  · split at read
    · obtain rfl := Option.some.inj read
      trivial
    · cases read

theorem fits_readNumber {r : Rigour} {negative : Bool} {s rest : List Char} {value : Json}
    (read : readNumber r negative s = some (value, rest)) : value.Everywhere Fits := by
  unfold readNumber at read
  simp only at read
  split at read
  next => cases read
  next =>
    obtain ⟨⟨fraction, _⟩, -, read⟩ := Option.bind_eq_some_iff.1 read
    obtain ⟨⟨power, _⟩, -, read⟩ := Option.bind_eq_some_iff.1 read
    simp only at read
    split at read
    next =>
      obtain ⟨rfl, -⟩ := Prod.mk.inj (Option.some.inj read)
      exact fits_wholeNumber negative (gather_le (Nat.zero_le _) _ _)
    next =>
      obtain ⟨number, found, read⟩ := Option.bind_eq_some_iff.1 read
      obtain ⟨rfl, -⟩ := Prod.mk.inj (Option.some.inj read)
      exact fits_approximate found

theorem fits_readWord {word s rest : List Char} {named value : Json}
    (read : readWord word named s = some (value, rest)) (plain : named.Everywhere Fits) :
    value.Everywhere Fits := by
  obtain ⟨_, -, same⟩ := Option.map_eq_some_iff.1 read
  obtain ⟨rfl, -⟩ := Prod.mk.inj same
  exact plain

theorem fits_readPlain {r : Rigour} {s rest : List Char} {value : Json}
    (read : readPlain r s = some (value, rest)) : value.Everywhere Fits := by
  unfold readPlain at read
  split at read
  next =>
    obtain ⟨_, -, same⟩ := Option.map_eq_some_iff.1 read
    obtain ⟨rfl, -⟩ := Prod.mk.inj same
    trivial
  next => exact fits_readWord read trivial
  next => exact fits_readWord read trivial
  next => exact fits_readWord read trivial
  next => exact fits_readNumber read
  next =>
    split at read
    next => exact fits_readNumber read
    next => cases read
  next => cases read

/-- **What is read has whole numbers of 64 bits**, everywhere; so have items and members that are read. -/
theorem fits_read (r : Rigour) (fuel : Nat) :
    (∀ depth s value rest, readValue r depth fuel s = some (value, rest) → value.Everywhere Fits) ∧
    (∀ depth s items rest, readItems r depth fuel s = some (items, rest) →
      EverywhereItems Fits items) ∧
    ∀ depth s members rest, readMembers r depth fuel s = some (members, rest) →
      EverywhereMembers Fits members := by
  -- The three readers call each other, each time with less fuel.
  induction fuel with
  | zero => exact ⟨nofun, nofun, nofun⟩
  | succ fuel ih =>
    obtain ⟨ofValue, ofItems, ofMembers⟩ := ih
    refine ⟨fun depth s value rest read => ?_, fun depth s items rest read => ?_,
      fun depth s members rest read => ?_⟩
    · cases readValue_eq_some_iff.1 read with
      | plain read => exact fits_readPlain read
      | array _ inside =>
        cases inside with
        | closed => exact ⟨trivial, trivial⟩
        | filled _ read => exact ⟨trivial, ofItems _ _ _ _ read⟩
      | object _ inside =>
        cases inside with
        | closed => exact ⟨trivial, trivial⟩
        | filled _ read => exact ⟨trivial, ofMembers _ _ _ _ read⟩
    · obtain ⟨_, _, first, later⟩ := readItems_eq_some_iff.1 read
      have here := ofValue _ _ _ _ first
      cases later with
      | last => exact ⟨here, trivial⟩
      | more _ read => exact ⟨here, ofItems _ _ _ _ read⟩
    · obtain ⟨_, _, _, _, -, first, later⟩ := readMembers_eq_some_iff.1 read
      have here := ofValue _ _ _ _ first
      cases later with
      | last => exact ⟨here, trivial⟩
      | more _ read => exact ⟨here, ofMembers _ _ _ _ read⟩

/-- **What is read is canonical**, once its members are brought into order. -/
theorem canonical_readFront {depth : Nat} {s rest : List Char} {value : Json}
    (read : readFront depth s = some (value, rest)) : value.normalize.Canonical :=
  canonical_normalize ((fits_read .strict (fuelFor s)).1 depth s value rest read)

end Gateway.Json
