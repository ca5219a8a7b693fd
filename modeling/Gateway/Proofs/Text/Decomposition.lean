import Gateway.Proofs.Text.TopLevel
import Mathlib.Data.List.Infix

/-!
# The one way to split a text

What a text has outside its quotes can be told without a scan, and so can the depth of its brackets: it
is the number of those that are opened less the number of those that are closed. A text is paired when it
closes no bracket that is not open, and ends outside brackets and quotes. `paired_iff_run` says that the
scan finds just this.

Texts that are paired are just those that are split, and there is one way to do it: the parts are paired,
have no comma outside brackets and quotes, and are the whole text with a comma between any two of them
(`splitTopLevel_exact`).
-/

namespace Gateway.Text

/-! ## §1 — outside quotes and brackets -/

mutual

/-- The characters of a text that stand outside double quotes; nothing when a quote is open at its
end. -/
def outside? : List Char → Option (List Char)
  | [] => some []
  | c :: rest => if c = '"' then inside? rest else (outside? rest).map (c :: ·)

/-- The same inside a quote. -/
def inside? : List Char → Option (List Char)
  | [] => none
  | c :: rest =>
    if c = '"' then outside? rest else if c = '\\' then escaped? rest else inside? rest

/-- The same inside a quote behind a backslash, which the next character does not end. -/
def escaped? : List Char → Option (List Char)
  | [] => none
  | _ :: rest => inside? rest

end

/-- The end of the text stands outside quotes and brackets: of the latter as many are closed as are
opened. -/
def EndsOutside (text : List Char) : Prop :=
  ∃ plain, outside? text = some plain ∧ plain.count '(' = plain.count ')'

/-- **No bracket is closed that is not open**: before each closing bracket outside quotes there are more
that are opened than that are closed. -/
def ClosesOpened (text : List Char) : Prop :=
  ∀ before, before ++ [')'] <+: text →
    ∀ plain, outside? before = some plain → plain.count ')' < plain.count '('

/-- **A text pairs its brackets and quotes.** -/
structure Paired (text : List Char) : Prop where
  closes : ClosesOpened text
  ends : EndsOutside text

/-- **A part of a text**: it is paired, and no comma of it stands outside quotes and brackets. -/
structure IsPart (text : List Char) : Prop extends Paired text where
  unsplit : ∀ before, before ++ [','] <+: text → ¬ EndsOutside before

/-- **A text is made of these parts**, with a comma between any two of them. -/
structure Decomposes (text : List Char) (parts : List (List Char)) : Prop where
  filled : parts ≠ []
  joined : [','].intercalate parts = text
  each : ∀ part ∈ parts, IsPart part

/-! ## §2 — what the scan knows -/

namespace Scan

/-- A scan that began outside quotes with `depth` open brackets has come to the end of a text with these
characters outside its quotes. -/
def Tells (t : Scan) (depth : Nat) : Option (List Char) → Prop
  | none => t.quoted = true
  | some plain => t.quoted = false ∧ depth + plain.count '(' = t.depth + plain.count ')'

/-- Outside quotes a character other than a quote moves nothing but the depth. -/
theorem exists_of_step {s : Scan} {depth : Nat} {c : Char} (other : c ≠ '"')
    (next : (⟨depth, false, false⟩ : Scan).step c = some s) :
    ∃ deep, s = ⟨deep, false, false⟩ ∧ depth + [c].count '(' = deep + [c].count ')' := by
  by_cases opening : c = '('
  · subst opening
    exact ⟨depth + 1, (Option.some.inj next).symm, rfl⟩
  by_cases closing : c = ')'
  · subst closing
    cases depth with
    | zero => cases next
    | succ deep => exact ⟨deep, (Option.some.inj next).symm, rfl⟩
  · have stays : (⟨depth, false, false⟩ : Scan).step c = some ⟨depth, false, false⟩ := by
      simp [step, other, opening, closing]
    rw [stays] at next
    refine ⟨depth, (Option.some.inj next).symm, ?_⟩
    simp [opening, closing]

theorem Tells.cons {t : Scan} {depth deep : Nat} {c : Char} {plain : Option (List Char)}
    (moves : depth + [c].count '(' = deep + [c].count ')') (told : t.Tells deep plain) :
    t.Tells depth (plain.map (c :: ·)) := by
  cases plain with
  | none => exact told
  | some plain =>
    obtain ⟨outside, depths⟩ := told
    refine ⟨outside, ?_⟩
    show depth + ([c] ++ plain).count '(' = t.depth + ([c] ++ plain).count ')'
    rw [List.count_append, List.count_append]
    omega

mutual

/-- **The scan knows what stands outside quotes**, and of it the depth. -/
theorem tells_outside {t : Scan} : ∀ (text : List Char) (depth : Nat),
    (⟨depth, false, false⟩ : Scan).run text = some t → t.Tells depth (outside? text)
  | [], depth, ran => by
    obtain rfl := Option.some.inj ran
    exact ⟨rfl, rfl⟩
  | c :: rest, depth, ran => by
    rw [run] at ran
    rw [outside?]
    split at ran
    · cases ran
    next s next =>
      by_cases quote : c = '"'
      · subst quote
        obtain rfl := Option.some.inj next
        exact tells_inside rest depth ran
      · obtain ⟨deep, rfl, moves⟩ := exists_of_step quote next
        rw [if_neg quote]
        exact (tells_outside rest deep ran).cons moves

theorem tells_inside {t : Scan} : ∀ (text : List Char) (depth : Nat),
    (⟨depth, true, false⟩ : Scan).run text = some t → t.Tells depth (inside? text)
  | [], depth, ran => by
    obtain rfl := Option.some.inj ran
    rfl
  | c :: rest, depth, ran => by
    rw [inside?]
    by_cases quote : c = '"'
    · subst quote
      exact tells_outside rest depth ran
    rw [if_neg quote]
    by_cases slash : c = '\\'
    · subst slash
      exact tells_escaped rest depth ran
    · have stays : (⟨depth, true, false⟩ : Scan).step c = some ⟨depth, true, false⟩ := by
        simp [step, quote, slash]
      rw [run, stays] at ran
      rw [if_neg slash]
      exact tells_inside rest depth ran

theorem tells_escaped {t : Scan} : ∀ (text : List Char) (depth : Nat),
    (⟨depth, true, true⟩ : Scan).run text = some t → t.Tells depth (escaped? text)
  | [], depth, ran => by
    obtain rfl := Option.some.inj ran
    rfl
  | _ :: rest, depth, ran => tells_inside rest depth ran

end

/-- **What a text has outside its quotes tells where the scan of it ends.** -/
theorem eq_of_outside? {t : Scan} {text plain : List Char} (ran : start.run text = some t)
    (found : outside? text = some plain) :
    t = ⟨t.depth, false, false⟩ ∧ plain.count '(' = t.depth + plain.count ')' := by
  have told := tells_outside text 0 ran
  have reachable := reachable_of_run ran
  rw [found] at told
  obtain ⟨depth, quoted, escaped⟩ := t
  obtain ⟨rfl, depths⟩ := told
  cases escaped with
  | true => exact absurd (reachable rfl) (by simp)
  | false => exact ⟨rfl, by rw [← depths, Nat.zero_add]⟩

theorem quoted_of_outside? {t : Scan} {text : List Char} (ran : start.run text = some t)
    (unended : outside? text = none) : t.quoted = true := by
  have told := tells_outside text 0 ran
  rwa [unended] at told

/-- A comma splits just where a text ends outside quotes and brackets. -/
theorem splits_iff_endsOutside {t : Scan} {text : List Char} (ran : start.run text = some t) :
    t.splits = true ↔ EndsOutside text := by
  unfold EndsOutside
  cases found : outside? text with
  | none =>
    have quoted := quoted_of_outside? ran found
    simp [splits, atTop, quoted]
  | some plain =>
    obtain ⟨same, depths⟩ := eq_of_outside? ran found
    rw [same]
    simp [splits, atTop, depths]

/-- The scan stops at nothing but a closing bracket with none open. -/
theorem step_eq_none_iff {s : Scan} {c : Char} :
    s.step c = none ↔ c = ')' ∧ s.quoted = false ∧ s.escaped = false ∧ s.depth = 0 := by
  obtain ⟨depth, quoted, escaped⟩ := s
  cases depth <;> cases quoted <;> cases escaped <;> simp [step] <;> grind

/-- Behind a text the scan stops at a bracket that the text has not open. -/
theorem stops_iff {t : Scan} {text : List Char} (ran : start.run text = some t) (c : Char) :
    t.step c = none ↔
      c = ')' ∧ ∃ plain, outside? text = some plain ∧ plain.count '(' ≤ plain.count ')' := by
  rw [step_eq_none_iff]
  cases found : outside? text with
  | none => simp [quoted_of_outside? ran found]
  | some plain =>
    obtain ⟨same, depths⟩ := eq_of_outside? ran found
    have closed : t.depth = 0 ↔ plain.count '(' ≤ plain.count ')' := by omega
    rw [same]
    simp [closed]

end Scan

/-! ## §3 — paired texts -/

theorem closesOpened_concat {text : List Char} {c : Char} : ClosesOpened (text ++ [c]) ↔
    ClosesOpened text ∧ (c = ')' → ∀ plain, outside? text = some plain →
      plain.count ')' < plain.count '(') := by
  constructor
  · intro h
    refine ⟨fun before front => h before (front.trans (List.prefix_append text [c])), ?_⟩
    rintro rfl
    exact h text (List.prefix_refl _)
  · rintro ⟨earlier, last⟩ before front
    rcases List.prefix_concat_iff.1 front with same | front
    · obtain ⟨rfl, mark⟩ := List.append_inj' same rfl
      exact last (List.cons.inj mark).1.symm
    · exact earlier before front

/-- **The scan goes on as long as no bracket is closed that is not open.** -/
theorem closesOpened_iff_run {text : List Char} :
    ClosesOpened text ↔ ∃ t, Scan.start.run text = some t := by
  induction text using List.reverseRecOn with
  | nil =>
    refine iff_of_true (fun before front => ?_) ⟨_, rfl⟩
    exact absurd front.length_le (by simp)
  | append_singleton text c ih =>
    rw [closesOpened_concat, ih, Scan.run_append]
    constructor
    · rintro ⟨⟨t, ran⟩, last⟩
      have goesOn : t.step c ≠ none := by
        rw [ne_eq, Scan.stops_iff ran]
        rintro ⟨closing, plain, found, closed⟩
        exact absurd (last closing plain found) (Nat.not_lt.2 closed)
      obtain ⟨u, next⟩ := Option.ne_none_iff_exists'.1 goesOn
      exact ⟨u, by rw [ran, Option.bind_some, Scan.run, next]; rfl⟩
    · rintro ⟨u, ran⟩
      obtain ⟨t, ran, last⟩ := Option.bind_eq_some_iff.1 ran
      refine ⟨⟨t, ran⟩, fun closing plain found => ?_⟩
      by_contra closed
      have stops := (Scan.stops_iff ran c).2 ⟨closing, plain, found, Nat.not_lt.1 closed⟩
      rw [Scan.run, stops] at last
      cases last

/-- **Paired texts** are those that the scan reads from its start to its start. -/
theorem paired_iff_run {text : List Char} : Paired text ↔ Scan.start.run text = some .start := by
  constructor
  · rintro ⟨closes, ends⟩
    obtain ⟨t, ran⟩ := closesOpened_iff_run.1 closes
    rw [ran, Scan.eq_start_of_splits ((Scan.splits_iff_endsOutside ran).2 ends)]
  · intro ran
    exact ⟨closesOpened_iff_run.2 ⟨_, ran⟩, (Scan.splits_iff_endsOutside ran).1 rfl⟩

/-- The parts of a text are its texts in one piece. -/
theorem isPart_iff_onePiece {text : List Char} : IsPart text ↔ OnePiece text := by
  constructor
  · rintro ⟨paired, unsplit⟩
    refine .of_run (paired_iff_run.1 paired) ?_
    rintro before after rfl t ran
    rw [Bool.eq_false_iff, ne_eq, Scan.splits_iff_endsOutside ran]
    exact unsplit before ⟨after, by simp⟩
  · intro whole
    refine ⟨paired_iff_run.2 whole.run, ?_⟩
    rintro before ⟨after, rfl⟩
    have ran := whole.run
    rw [List.append_assoc, Scan.run_append] at ran
    obtain ⟨t, ran, -⟩ := Option.bind_eq_some_iff.1 ran
    rw [← Scan.splits_iff_endsOutside ran, ← ne_eq, ← Bool.eq_false_iff]
    exact whole.guarded before after (List.append_assoc ..) t ran

/-! ## §4 — decompositions -/

/-- **Splitting yields the parts of a text.** -/
theorem splitTopLevel_eq_some_iff {text : List Char} {parts : List (List Char)} :
    splitTopLevel text = some parts ↔ Decomposes text parts := by
  constructor
  · intro split
    refine ⟨splitFrom_ne_nil split, intercalate_of_splitFrom split, fun part mem => ?_⟩
    exact isPart_iff_onePiece.2 (onePiece_of_splitTopLevel split part mem)
  · rintro ⟨filled, rfl, each⟩
    exact splitTopLevel_intercalate filled fun part mem => isPart_iff_onePiece.1 (each part mem)

/-- **Just the paired texts are split.** -/
theorem exists_splitTopLevel_iff {text : List Char} :
    (∃ parts, splitTopLevel text = some parts) ↔ Paired text := by
  rw [paired_iff_run]
  constructor
  · rintro ⟨parts, split⟩
    rw [← intercalate_of_splitFrom split]
    exact run_intercalate (onePiece_of_splitTopLevel split)
  · exact fun ran => exists_splitFrom ran rfl

/-- **A text is split into the only parts that it is made of**, if it is made of any. Just the paired
texts are, and splitting a list of parts with commas between them yields that list. -/
theorem splitTopLevel_exact :
    (∀ text, (∃ parts, splitTopLevel text = some parts) ↔ Paired text) ∧
    (∀ text parts, splitTopLevel text = some parts ↔ Decomposes text parts) ∧
    (∀ text, Paired text ↔ ∃! parts, Decomposes text parts) ∧
    (∀ parts, splitTopLevel ([','].intercalate parts) = some parts ↔
      parts ≠ [] ∧ ∀ part ∈ parts, IsPart part) := by
  refine ⟨fun text => exists_splitTopLevel_iff, fun text parts => splitTopLevel_eq_some_iff,
    fun text => ?_, fun parts => ?_⟩
  · simp only [← exists_splitTopLevel_iff, ← splitTopLevel_eq_some_iff]
    constructor
    · rintro ⟨parts, split⟩
      refine ⟨parts, split, fun other same => ?_⟩
      exact Option.some.inj (same.symm.trans split)
    · exact ExistsUnique.exists
  · rw [splitTopLevel_eq_some_iff]
    exact ⟨fun ⟨filled, _, each⟩ => ⟨filled, each⟩, fun ⟨filled, each⟩ => ⟨filled, rfl, each⟩⟩

/-- Commas in brackets and quotes do not separate parts, and a quote behind a backslash ends none. -/
example : splitTopLevel "é(a,(b)),\"x\\\",y\",".toList =
    some ["é(a,(b))".toList, "\"x\\\",y\"".toList, []] := by
  decide

end Gateway.Text
