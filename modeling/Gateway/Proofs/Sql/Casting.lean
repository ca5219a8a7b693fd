import Gateway.Proofs.Json.RoundTrip
import Gateway.Proofs.Sql.Naming
import Gateway.Proofs.Text.Uuid

/-!
# Casts of arguments

The type of an argument is guessed from its value, and the placeholder is cast to it. `CastFits` says which
texts each type has room for, and that the text is the one of the argument.

`casts_fit_iff` reads the placeholders back from the text of a call. Every cast fits its value, but that of
a whole number of 64 bits without a sign: from 2⁶³ on it is cast to `bigint`, which has no room for it.
-/

namespace Gateway.Sql

open Json (Whole canonical_int canonical_null canonical_single canonical_str)
open Template (read_sql)

/-! ## §1 — what a type has room for -/

/-- A whole number that fits so many bits, one of them its sign. -/
def Signed (bits : Nat) (n : Int) : Prop :=
  -2 ^ (bits - 1) ≤ n ∧ n ≤ 2 ^ (bits - 1) - 1

instance (bits : Nat) (n : Int) : Decidable (Signed bits n) :=
  inferInstanceAs (Decidable (_ ∧ _))

/-- The text of a scalar: a string is its own text, and there is none of `null`. -/
def scalarText : Json → Param
  | .null => none
  | .str text => some text
  | scalar => some scalar.text

/-- **What is bound fits its cast**, and is the text of the argument. -/
def CastFits (argument : Json) (bound : Param) : Option String → Prop
  | none => argument.IsLeaf ∧ bound = scalarText argument
  | some "integer" => ∃ n, argument = .int n ∧ bound = some (toString n) ∧ Signed 32 n
  | some "bigint" => ∃ n, argument = .int n ∧ bound = some (toString n) ∧ Signed 64 n
  | some "boolean" => ∃ b, argument = .bool b ∧ bound = some (if b then "true" else "false")
  | some "uuid" => ∃ text, argument = .str text ∧ bound = some text ∧ Text.Hyphenated text.toList
  | some "jsonb" => ¬ argument.IsLeaf ∧ ∃ text, bound = some text ∧
      -- A text reads back where the reader has room for it and no number has to be rounded.
      (argument.Everywhere Whole → ∀ limit, argument.depth ≤ limit →
        Json.readWithin? limit text = some argument)
  | some _ => False

/-- **The argument is cast as it fits**: to `integer` exactly when it is a whole number of 32 bits. -/
structure WellCast (argument : Json) (bound : Param) (cast : Option String) : Prop where
  fits : CastFits argument bound cast
  integer : ∀ n, argument = .int n → (cast = some "integer" ↔ Signed 32 n)

/-! ## §2 — what is guessed -/

theorem integerType_of_signed {n : Int} (h : Signed 32 n) : Binding.integerType n = .integer := by
  obtain ⟨low, high⟩ := h
  exact if_pos ⟨low, by omega⟩

theorem integerType_of_not_signed {n : Int} (h : ¬ Signed 32 n) : Binding.integerType n = .bigint := by
  refine if_neg fun ⟨low, high⟩ => h ⟨low, ?_⟩
  omega

/-- An array or an object is cast to `jsonb`, and its text reads back. -/
theorem castFits_jsonb {value : Json} (canonical : value.Canonical) (node : ¬ value.IsLeaf) :
    CastFits value (some value.text) (some "jsonb") :=
  ⟨node, _, rfl, fun whole _ room =>
    Json.readWithin?_text canonical (Json.legible_of_whole whole) room⟩

/-- A whole number is cast as it fits when it has 64 bits with its sign. -/
theorem wellCast_int_iff {n : Int} (fits : Binary64.Fits64 n) :
    WellCast (.int n) (some (toString n)) (some (Binding.integerType n).text) ↔ n < 2 ^ 63 := by
  by_cases narrow : Signed 32 n
  · rw [integerType_of_signed narrow]
    have small : n < 2 ^ 63 := by
      have := narrow.2
      omega
    refine iff_of_true ⟨⟨n, rfl, rfl, narrow⟩, fun m same => ?_⟩ small
    obtain rfl := Json.int.inj same
    exact iff_of_true rfl narrow
  · rw [integerType_of_not_signed narrow]
    constructor
    · rintro ⟨⟨m, same, -, signed⟩, -⟩
      obtain rfl := Json.int.inj same
      have := signed.2
      omega
    · intro small
      refine ⟨⟨n, rfl, rfl, ?_⟩, fun m same => ?_⟩
      · have := fits.1
        exact ⟨by omega, by omega⟩
      · obtain rfl := Json.int.inj same
        exact iff_of_false (by decide) narrow

/-- What is no whole number has only to fit its cast. -/
theorem wellCast_of_castFits {value : Json} {bound : Param} {cast : Option String}
    (other : ∀ n, value ≠ .int n) (fits : CastFits value bound cast) : WellCast value bound cast :=
  ⟨fits, fun n same => absurd same (other n)⟩

/-- **The guess fits**, unless the value is a whole number of 2⁶³ or more. -/
theorem wellCast_ofArgument_iff {value : Json} (canonical : value.Canonical) :
    WellCast value (Binding.ofArgument value).value ((Binding.ofArgument value).cast.map Word.text) ↔
      ∀ n, value = .int n → n < 2 ^ 63 := by
  cases value with
  | int n =>
    show WellCast _ (some (Json.int n).text) _ ↔ _
    rw [Json.text_int]
    refine (wellCast_int_iff canonical.fits).trans ⟨fun small m same => ?_, fun small => small n rfl⟩
    exact Json.int.inj same ▸ small
  | null => exact iff_of_true (wellCast_of_castFits nofun ⟨trivial, rfl⟩) nofun
  | bool b =>
    refine iff_of_true (wellCast_of_castFits nofun ⟨b, rfl, ?_⟩) nofun
    cases b <;> rfl
  | float => exact iff_of_true (wellCast_of_castFits nofun ⟨trivial, rfl⟩) nofun
  | str text =>
    refine iff_of_true (wellCast_of_castFits nofun ?_) nofun
    rw [Binding.ofArgument]
    by_cases uuid : Text.isUuid text.toList = true
    · rw [if_pos uuid]
      exact ⟨text, rfl, rfl, Text.isUuid_iff.1 uuid⟩
    · rw [if_neg uuid]
      exact ⟨trivial, rfl⟩
  | arr | obj => exact iff_of_true (wellCast_of_castFits nofun (castFits_jsonb canonical id)) nofun

/-! ## §3 — calls -/

/-- **A placeholder conveys an argument.** It is the value of the parameter that the key names, and its cast
fits, except that of a whole number of 2⁶³ or more, which is cast to `bigint`. -/
structure Conveys (argument : String × Json) (slot : Slot) : Prop where
  named : writtenName? none argument.1 = some slot.owner
  assigned : slot.operator = ":="
  fits_iff : WellCast argument.2 slot.value slot.cast ↔ ∀ n, argument.2 = .int n → n < 2 ^ 63
  overflow : ∀ n, argument.2 = .int n → 2 ^ 63 ≤ n →
    slot.value = some (toString n) ∧ slot.cast = some "bigint"

theorem conveys_ofArgument {key : String} {value : Json} {name : Identifier}
    (read : Identifier.read? key.toList = some name) (canonical : value.Canonical) :
    Conveys (key, value) ((Binding.ofArgument value).slot ":=" name) where
  named := by
    rw [writtenName?, read]
    rfl
  assigned := rfl
  fits_iff := wellCast_ofArgument_iff canonical
  overflow := by
    rintro n rfl large
    refine ⟨congrArg some (Json.text_int n), ?_⟩
    have wide : ¬ Signed 32 n := fun narrow => by
      have := narrow.2
      omega
    exact congrArg (fun type => some (Word.text type)) (integerType_of_not_signed wide)

/-- The places of arguments whose names were read convey them, one after the other. -/
theorem forall₂_conveys {arguments : List (String × Json)} {passed : List Template}
    (read : arguments.mapM readArgument = .ok passed)
    (canonical : ∀ argument ∈ arguments, argument.2.Canonical) :
    List.Forall₂ Conveys arguments (memberSlots ":=" none .ofArgument arguments) := by
  have pairs := mapM_eq_ok_iff.1 read
  clear read
  induction pairs with
  | nil => exact .nil
  | @cons argument t arguments passed first _ ih =>
    obtain ⟨name, found, -⟩ := map_eq_ok_iff.1 first
    have known := Identifier.read_eq_ok_iff.1 found
    have place : memberSlot ":=" none .ofArgument argument =
        some ((Binding.ofArgument argument.2).slot ":=" name) := by
      rw [memberSlot, known]
      rfl
    rw [memberSlots, List.filterMap_cons, place]
    exact .cons (conveys_ofArgument known (canonical _ List.mem_cons_self))
      (ih fun argument mem => canonical argument (List.mem_cons_of_mem _ mem))

/-- **Casts fit their values, up to 2⁶³.** The placeholders of an accepted call convey its arguments,
one after the other, each by its name. The cast fits the value exactly when that is not a whole number of
2⁶³ or more. -/
theorem casts_fit_iff {function : String} {arguments : List (String × Json)} {s : Statement}
    (canonical : (Json.obj arguments).Canonical) (ok : call function arguments = .ok s) :
    ∃ tokens, readTokens s.sql s.params = some tokens ∧
      s.params = (readSlots tokens).map Slot.value ∧
      List.Forall₂ Conveys arguments (readSlots tokens) := by
  have legible := legible_call ok
  rw [call_eq] at ok
  obtain ⟨name, -, written⟩ := bind_eq_ok_iff.1 ok
  obtain ⟨passed, read, rfl⟩ := map_eq_ok_iff.1 written
  have binds := binds_callOf name read
  refine ⟨_, read_sql legible, ?_, ?_⟩
  · rw [binds.readSlots_eq]
    exact binds.params_eq
  · rw [binds.readSlots_eq]
    exact forall₂_conveys read (Json.canonical_obj_iff.1 canonical).2

/-- Arguments of every type, with the numbers on both sides of each bound. -/
theorem casts_fit_iff_bounds :
    let arguments : List (String × Json) := [
      ("a", .int 2147483647), ("b", .int 2147483648), ("c", .int (-2147483648)),
      ("d", .int (-2147483649)), ("e", .int 9223372036854775807), ("f", .int 9223372036854775808),
      ("g", .bool true), ("h", .null), ("i", .str "7B2C1a7e-1f0a-4e0e-9a5b-2d1b6f0d9c11"),
      ("j", .str "7"), ("k", .arr [.int 1, .obj [("a", .str "\"")]])]
    (Json.obj arguments).Canonical ∧ ∃ s tokens, call "f" arguments = .ok s ∧
      readTokens s.sql s.params = some tokens ∧
      (readSlots tokens).map Slot.cast = [some "integer", some "bigint", some "integer", some "bigint",
        some "bigint", some "bigint", some "boolean", none, some "uuid", none, some "jsonb"] ∧
      s.params = (readSlots tokens).map Slot.value ∧
      List.Forall₂ Conveys arguments (readSlots tokens) := by
  intro arguments
  have canonical : (Json.obj arguments).Canonical := by
    refine Json.canonical_obj_iff.2 ⟨by unfold Json.Sorted; decide +kernel, ?_⟩
    have nested : (Json.arr [.int 1, .obj [("a", .str "\"")]]).Canonical := by
      refine Json.canonical_arr_iff.2 ?_
      simp only [List.forall_mem_cons]
      exact ⟨canonical_int (by decide), canonical_single (canonical_str _), List.forall_mem_nil _⟩
    simp only [arguments, List.forall_mem_cons]
    exact ⟨canonical_int (by decide), canonical_int (by decide), canonical_int (by decide),
      canonical_int (by decide), canonical_int (by decide), canonical_int (by decide),
      ⟨trivial, trivial⟩, canonical_null, canonical_str _, canonical_str _, nested,
      List.forall_mem_nil _⟩
  have called : call "f" arguments = .ok (callOf ⟨"f", by decide⟩
      (arguments.map fun argument => [.name ((Identifier.read? argument.1.toList).getD .id), .space,
        .symbol .assign, .space] ++ (Binding.ofArgument argument.2).template)) := by rfl
  obtain ⟨tokens, read, bound, conveyed⟩ := casts_fit_iff canonical called
  refine ⟨canonical, _, tokens, called, read, ?_, bound, conveyed⟩
  obtain rfl := Option.some.inj ((read_sql (legible_call called)).symm.trans read)
  decide +kernel

/-- **The first whole number without room**: 2⁶³ is cast to `bigint`, which ends one below it. -/
theorem casts_misfit :
    ∃ s tokens, call "f" [("v", .int 9223372036854775808)] = .ok s ∧
      s.sql = "SELECT * FROM \"f\"(\"v\" := $1::bigint)" ∧ readTokens s.sql s.params = some tokens ∧
      readSlots tokens = [⟨"v", ":=", some "9223372036854775808", some "bigint"⟩] ∧
      ¬ CastFits (.int 9223372036854775808) (some "9223372036854775808") (some "bigint") := by
  have called : call "f" [("v", .int 9223372036854775808)] = .ok (callOf ⟨"f", by decide⟩
      [[.name ⟨"v", by decide⟩, .space, .symbol .assign, .space] ++
        (Binding.ofArgument (.int 9223372036854775808)).template]) := by rfl
  refine ⟨_, _, called, by decide +kernel, read_sql (legible_call called), by decide +kernel, ?_⟩
  rintro ⟨n, same, -, signed⟩
  obtain rfl := Json.int.inj same
  exact absurd signed (by decide)

end Gateway.Sql
