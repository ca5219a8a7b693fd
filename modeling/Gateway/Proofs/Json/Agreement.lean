import Gateway.Proofs.Json.Steps

/-!
# Readings of one text agree

The reader of values is called with more or less fuel and depth, and with or without rigour. None of this
matters where the stricter reading succeeds: the other one goes as far (`read_follows`). So two readings
of one text end in the same place, and with the same rigour they yield the same value
(`readValue_agree`).
-/

namespace Gateway.Json

variable {α : Type}

/-! ## §1 — readers that go as far as others -/

/-- **A reader goes as far as another** wherever that one succeeds, and yields the same if `same` holds. -/
def Follows (same : Prop) (read' read : List Char → Option (α × List Char)) : Prop :=
  ∀ ⦃s a rest⦄, read s = some (a, rest) → ∃ b, read' s = some (b, rest) ∧ (same → b = a)

section Brackets

variable {same : Prop} {read' read : List Char → Option (List α × List Char)} {close : Char} {a a' : α}
  {s rest : List Char} {as : List α}

theorem Follows.bracketed (follows : Follows same read' read) (inside : Bracketed close read s as rest) :
    ∃ bs, Bracketed close read' s bs rest ∧ (same → bs = as) := by
  cases inside with
  | closed closes => exact ⟨[], .closed closes, fun _ => rfl⟩
  | filled opens inside =>
    obtain ⟨bs, inside', equal⟩ := follows inside
    exact ⟨bs, .filled opens inside', equal⟩

theorem Follows.continued (follows : Follows same read' read) (first : same → a' = a)
    (later : Continued close read a s as rest) :
    ∃ bs, Continued close read' a' s bs rest ∧ (same → bs = as) := by
  cases later with
  | last closes => exact ⟨[a'], .last closes, fun holds => by rw [first holds]⟩
  | more comma later =>
    obtain ⟨bs, later', equal⟩ := follows later
    exact ⟨a' :: bs, .more comma later', fun holds => by rw [first holds, equal holds]⟩

end Brackets

/-! ## §2 — more fuel, more depth, less rigour -/

/-- A rigour is no stricter than another. -/
def Looser (r' r : Rigour) : Prop :=
  r' = r ∨ r' = .lenient

variable {r r' : Rigour}

/-- A character in front of what was read does not change where it ends. -/
theorem map_snd_consChar (c : Char) (read : Option (List Char × List Char)) :
    (consChar c read).map (·.2) = read.map (·.2) := by
  cases read <;> rfl

/-- Without rigour a string ends where it ends with it. -/
theorem readChars_lenient {s rest : List Char} (read : (readChars .strict s).map (·.2) = some rest) :
    (readChars .lenient s).map (·.2) = some rest := by
  fun_induction readChars .strict s
  case case1 | case3 | case6 | case7 | case9 | case10 | case11 | case13 => cases read
  case case2 => exact read
  case case4 a b c d behind n value single ih =>
    rw [map_snd_consChar] at read
    simp only [readChars, value, single, if_true, map_snd_consChar, ih read]
  case case5 strict _ => cases strict
  case case8 a b c d n value half _ _ e f g h behind m value' other ih =>
    rw [map_snd_consChar] at read
    have second : ¬(decide (m < 0xD800) || decide (0xE000 ≤ m)) = true := by
      simp only [Bool.and_eq_true, Bool.or_eq_true, decide_eq_true_eq] at other ⊢
      omega
    simp only [readChars, value, value', half, second, Bool.false_eq_true, if_true, if_false,
      map_snd_consChar, ih read]
  case case12 c behind noUnicode e short ih =>
    rw [map_snd_consChar] at read
    rw [readChars, short]
    · exact (map_snd_consChar e _).trans (ih read)
    · exact noUnicode
  case case14 c behind noQuote noUnicode noEscape printable ih =>
    rw [map_snd_consChar] at read
    rw [readChars, if_neg printable, map_snd_consChar]
    · exact ih read
    · exact noQuote
    · exact noUnicode
    · exact noEscape

theorem readChars_follows (looser : Looser r' r) : Follows (r' = r) (readChars r') (readChars r) := by
  intro s cs rest read
  cases r with
  | lenient => exact ⟨cs, by rwa [looser.elim id id], fun _ => rfl⟩
  | strict =>
    rcases looser with rfl | rfl
    · exact ⟨cs, read, fun _ => rfl⟩
    · obtain ⟨⟨cs', _⟩, found, rfl⟩ := Option.map_eq_some_iff.1 (readChars_lenient (by rw [read]; rfl))
      exact ⟨cs', found, fun same => by cases same⟩

theorem approximate_of_looser (looser : Looser r' r) {negative : Bool} {m : Nat} {e : Int} {value : Json}
    (found : approximate r negative m e = some value) : approximate r' negative m e = some value := by
  rcases looser with rfl | rfl
  · exact found
  · unfold approximate at found ⊢
    split at found
    next => exact found
    next =>
      -- Past the range there is a value only where nobody looks.
      split at found
      next => rwa [if_pos rfl]
      next => cases found

/-- A number that is read with rigour is read without it, as the same. -/
theorem readNumber_of_looser (looser : Looser r' r) {negative : Bool} {s : List Char}
    {read : Json × List Char} (number : readNumber r negative s = some read) :
    readNumber r' negative s = some read := by
  unfold readNumber at number ⊢
  simp only at number ⊢
  split at number
  next => cases number
  next filled =>
    rw [if_neg filled]
    obtain ⟨fraction, behind, number⟩ := Option.bind_eq_some_iff.1 number
    obtain ⟨power, further, number⟩ := Option.bind_eq_some_iff.1 number
    refine Option.bind_eq_some_iff.2 ⟨fraction, behind, Option.bind_eq_some_iff.2 ⟨power, further, ?_⟩⟩
    split at number
    next whole => rwa [if_pos whole]
    next approximated =>
      rw [if_neg approximated]
      obtain ⟨value, found, number⟩ := Option.bind_eq_some_iff.1 number
      exact Option.bind_eq_some_iff.2 ⟨value, approximate_of_looser looser found, number⟩

theorem readPlain_follows (looser : Looser r' r) : Follows (r' = r) (readPlain r') (readPlain r) := by
  intro s value rest read
  unfold readPlain at read
  split at read
  next =>
    obtain ⟨⟨cs, _⟩, quoted, same⟩ := Option.map_eq_some_iff.1 read
    obtain ⟨rfl, rfl⟩ := Prod.mk.inj same
    obtain ⟨cs', quoted', equal⟩ := readChars_follows looser quoted
    exact ⟨.str (String.ofList cs'), by rw [readPlain, quoted']; rfl, fun same => by rw [equal same]⟩
  next => exact ⟨value, read, fun _ => rfl⟩
  next => exact ⟨value, read, fun _ => rfl⟩
  next => exact ⟨value, read, fun _ => rfl⟩
  next => exact ⟨value, readNumber_of_looser looser read, fun _ => rfl⟩
  next c behind _ _ _ _ _ =>
    split at read
    next digit =>
      refine ⟨value, ?_, fun _ => rfl⟩
      rw [readPlain, if_pos digit]
      · exact readNumber_of_looser looser read
      all_goals assumption
    next => cases read
  next => cases read

/-- A key that is read with rigour is read without it, as far. -/
theorem Keyed.of_looser (looser : Looser r' r) {s rest : List Char} {key : String}
    (keyed : Keyed r s key rest) : ∃ key', Keyed r' s key' rest ∧ (r' = r → key' = key) := by
  obtain ⟨opens, quoted, colon⟩ := keyed
  obtain ⟨key', quoted', equal⟩ := readChars_follows looser quoted
  exact ⟨_, .mk opens quoted' colon, fun same => by rw [equal same]⟩

/-- **More fuel, more depth and less rigour change nothing where a value is read**, and nothing but what
is read where the rigour differs; so with items and members. -/
theorem read_follows (looser : Looser r' r) {fuel fuel' : Nat} (longer : fuel ≤ fuel') :
    (∀ {depth depth'}, depth ≤ depth' →
      Follows (r' = r) (readValue r' depth' fuel') (readValue r depth fuel)) ∧
    (∀ {depth depth'}, depth ≤ depth' →
      Follows (r' = r) (readItems r' depth' fuel') (readItems r depth fuel)) ∧
    ∀ {depth depth'}, depth ≤ depth' →
      Follows (r' = r) (readMembers r' depth' fuel') (readMembers r depth fuel) := by
  induction fuel generalizing fuel' with
  | zero => exact ⟨nofun, nofun, nofun⟩
  | succ fuel ih =>
    obtain ⟨fuel', rfl⟩ : ∃ k, fuel' = k + 1 := ⟨fuel' - 1, by omega⟩
    obtain ⟨ofValue, ofItems, ofMembers⟩ := ih (Nat.le_of_succ_le_succ longer)
    refine ⟨fun {depth depth'} deeper s value rest read => ?_,
      fun {depth depth'} deeper s items rest read => ?_,
      fun {depth depth'} deeper s members rest read => ?_⟩
    · cases readValue_eq_some_iff.1 read with
      | plain read =>
        obtain ⟨value', read', equal⟩ := readPlain_follows looser read
        exact ⟨value', readValue_eq_some_iff.2 (.plain read'), equal⟩
      | array opens inside =>
        obtain ⟨depth', rfl⟩ : ∃ k, depth' = k + 1 := ⟨depth' - 1, by omega⟩
        obtain ⟨items', inside', equal⟩ := (ofItems (Nat.le_of_succ_le_succ deeper)).bracketed inside
        exact ⟨.arr items', readValue_eq_some_iff.2 (.array opens inside'), fun same => by rw [equal same]⟩
      | object opens inside =>
        obtain ⟨depth', rfl⟩ : ∃ k, depth' = k + 1 := ⟨depth' - 1, by omega⟩
        obtain ⟨members', inside', equal⟩ := (ofMembers (Nat.le_of_succ_le_succ deeper)).bracketed inside
        exact ⟨.obj members', readValue_eq_some_iff.2 (.object opens inside'),
          fun same => by rw [equal same]⟩
    · obtain ⟨_, _, first, later⟩ := readItems_eq_some_iff.1 read
      obtain ⟨value', first', here⟩ := ofValue deeper first
      obtain ⟨items', later', equal⟩ := (ofItems deeper).continued here later
      exact ⟨items', readItems_eq_some_iff.2 ⟨value', _, first', later'⟩, equal⟩
    · obtain ⟨key, _, value, _, keyed, first, later⟩ := readMembers_eq_some_iff.1 read
      obtain ⟨key', keyed', named⟩ := keyed.of_looser looser
      obtain ⟨value', first', here⟩ := ofValue deeper first
      have entry : r' = r → (key', value') = (key, value) := fun same => by rw [named same, here same]
      obtain ⟨members', later', equal⟩ := (ofMembers deeper).continued entry later
      exact ⟨members', readMembers_eq_some_iff.2 ⟨_, _, value', _, keyed', first', later'⟩, equal⟩

/-- **Two readings of one text agree** on where they end, and with the same rigour on the value. -/
theorem readValue_agree {depth depth' fuel fuel' : Nat} {s rest rest' : List Char} {value value' : Json}
    (first : readValue r depth fuel s = some (value, rest))
    (second : readValue r' depth' fuel' s = some (value', rest')) :
    rest = rest' ∧ (r = r' → value = value') := by
  constructor
  · obtain ⟨_, first, -⟩ := (read_follows (.inr rfl) (Nat.le_max_left fuel fuel')).1
      (Nat.le_max_left depth depth') first
    obtain ⟨_, second, -⟩ := (read_follows (.inr rfl) (Nat.le_max_right fuel fuel')).1
      (Nat.le_max_right depth depth') second
    exact (Prod.mk.inj (Option.some.inj (first.symm.trans second))).2
  · rintro rfl
    obtain ⟨_, first, same⟩ := (read_follows (.inl rfl) (Nat.le_max_left fuel fuel')).1
      (Nat.le_max_left depth depth') first
    obtain ⟨_, second, same'⟩ := (read_follows (.inl rfl) (Nat.le_max_right fuel fuel')).1
      (Nat.le_max_right depth depth') second
    rw [← same rfl, ← same' rfl]
    exact (Prod.mk.inj (Option.some.inj (first.symm.trans second))).1

end Gateway.Json
