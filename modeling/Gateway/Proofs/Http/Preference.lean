import Gateway.Http.Preferences
import Gateway.Proofs.Http.Header
import Mathlib.Data.List.Induction

/-!
# What a client asks for

A client may ask for the number of all rows, for the rows that it writes, and for a single object in place
of an array. Each is said here of the header fields themselves, without the record that they are read
into: a preference that is there (`AsksTotal`), the last preference of a sort (`AsksRows`), a media type
(`AsksObject`). `Shows` says what becomes of rows in the form that is asked for.
-/

namespace Gateway.Http

open Gateway.Text

/-! ## §1 — preferences -/

/-- The preferences that header fields list, in order. -/
def preferred (hs : Headers) : List String :=
  (fieldTexts "prefer" hs).flatMap fun value =>
    (fields ',' value.toList).map fun token => String.ofList (trim token)

/-- The client asks for the number of all rows. -/
def AsksTotal (hs : Headers) : Prop :=
  "count=exact" ∈ preferred hs

/-- The preferences that say what the answer to a write holds. -/
def returnForms : List String :=
  ["return=representation", "return=minimal", "return=headers-only"]

/-- The client asks for the rows that it writes, by the last preference about the answer to a write. -/
def AsksRows (hs : Headers) : Prop :=
  Last (· ∈ returnForms) (preferred hs) "return=representation"

namespace Preferences

theorem ofHeaders_eq (hs : Headers) :
    ofHeaders hs = (preferred hs).foldl (fun p token => p.add token.toList) {} := by
  rw [ofHeaders, preferred, ← texts_eq, ← List.flatMap_map, List.map_flatMap, List.foldl_flatMap, List.foldl_flatMap]
  simp only [List.foldl_map, String.toList_ofList]

theorem count_add (p : Preferences) (token : String) :
    (p.add token.toList).count = true ↔ p.count = true ∨ token = "count=exact" := by
  unfold add
  rw [String.ofList_toList]
  split <;> simp_all

theorem wantsRows_add (p : Preferences) (token : String) :
    (p.add token.toList).wantsRows = true ↔
      token ∈ returnForms ∧ token = "return=representation" ∨
        token ∉ returnForms ∧ p.wantsRows = true := by
  unfold add wantsRows returnForms
  rw [String.ofList_toList]
  split <;> simp_all

/-- **All rows are counted when the client asks for it.** -/
theorem count_ofHeaders_iff (hs : Headers) : (ofHeaders hs).count = true ↔ AsksTotal hs := by
  rw [ofHeaders_eq, AsksTotal]
  induction preferred hs using List.reverseRecOn with
  | nil => simp
  | append_singleton tokens token ih => 
    rw [List.foldl_append, List.foldl_cons, List.foldl_nil, count_add, ih, List.mem_append,
      List.mem_singleton, eq_comm]

/-- **The rows that are written are answered when the client asks for them.** -/
theorem wantsRows_ofHeaders_iff (hs : Headers) : (ofHeaders hs).wantsRows = true ↔ AsksRows hs := by
  rw [ofHeaders_eq, AsksRows]
  induction preferred hs using List.reverseRecOn with
  | nil => simp [Last, wantsRows]
  | append_singleton tokens token ih =>
    rw [List.foldl_append, List.foldl_cons, List.foldl_nil, wantsRows_add, ih, last_concat_iff, eq_comm]

end Preferences

/-! ## §2 — the form of rows -/

/-- The client accepts a single object in place of an array. -/
def AsksObject (hs : Headers) : Prop :=
  ∃ value ∈ fieldTexts "accept" hs, ∃ media ∈ fields ',' value.toList, ∃ options,
    trim media = "application/vnd.pgrst.object+json".toList ++ options

theorem wantsSingleObject_iff (hs : Headers) : wantsSingleObject hs = true ↔ AsksObject hs := by
  simp only [wantsSingleObject, List.any_eq_true, Option.isSome_iff_exists, dropFront?_eq_some_iff,
    AsksObject, texts_eq]
  rfl

/-- **Rows in the form that is asked for**: all of them in order, or as a single object the only one as it
is, and `null` for none. -/
inductive Shows (hs : Headers) (rows : List Json) : Json → Prop
  | list (many : ¬ AsksObject hs) : Shows hs rows (.arr rows)
  | none (single : AsksObject hs) (empty : rows = []) : Shows hs rows .null
  | one {row : Json} (single : AsksObject hs) (only : rows = [row]) : Shows hs rows row

/-- A single object is no more than one row. -/
theorem Shows.length_le {hs : Headers} {rows : List Json} {json : Json} (h : Shows hs rows json)
    (single : AsksObject hs) : rows.length ≤ 1 := by
  cases h with
  | list many => exact absurd single many
  | none _ empty => simp [empty]
  | one _ only => simp [only]

/-- Rows take one form only. -/
theorem Shows.unique {hs : Headers} {rows : List Json} {json other : Json} (h : Shows hs rows json)
    (h' : Shows hs rows other) : json = other := by
  cases h with
  | list many =>
    cases h' with
    | list => rfl
    | none single | one single => exact absurd single many
  | none single empty =>
    cases h' with
    | list many => exact absurd single many
    | none => rfl
    | one single only => cases empty.symm.trans only
  | one single only =>
    cases h' with
    | list many => exact absurd single many
    | none single empty => cases only.symm.trans empty
    | one single same => exact (List.cons.inj (only.symm.trans same)).1

end Gateway.Http
