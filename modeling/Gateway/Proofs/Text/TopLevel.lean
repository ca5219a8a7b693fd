import Gateway.Text.Blank
import Gateway.Text.Cut
import Gateway.Text.TopLevel

/-!
# Lists that are split into the items they were made of

A text is in one piece when the scan of it ends outside brackets and quotes and no comma stands outside
them. Such texts survive a trip through a list: joined by commas they are split again into just
themselves (`splitTopLevel_intercalate`). They are closed under concatenation, brackets around a list of
them are one, and so is a quoted text whose quotes and backslashes are escaped.

The scan is the same inside brackets as outside (`Scan.run_under`), so a list may stand in an item of
another list.

The items of a text are never more than the pieces between its commas, and where they are as many they are
just these (`fields_of_splitFrom`).
-/

namespace Gateway.Text

namespace Scan

/-! ## §1 — states -/

/-- The state inside an open quote. -/
def inQuote : Scan := ⟨0, true, false⟩

/-- The same state with `n` more brackets open around it. -/
def under (n : Nat) (s : Scan) : Scan :=
  { s with depth := s.depth + n }

/-- The next character is escaped only inside quotes. -/
def Reachable (s : Scan) : Prop :=
  s.escaped = true → s.quoted = true

/-- A character that is no mark of the scan changes nothing. -/
theorem step_plain {s : Scan} {c : Char} (free : s.escaped = false)
    (h : c ∉ ['\\', '"', '(', ')']) : s.step c = some s := by
  simp only [List.mem_cons, List.not_mem_nil, or_false, not_or] at h
  obtain ⟨slash, quote, opening, closing⟩ := h
  simp [step, free, slash, quote, opening, closing]

/-- Inside quotes only a quote and a backslash are marks. -/
theorem inQuote_step {c : Char} (slash : c ≠ '\\') (quote : c ≠ '"') :
    inQuote.step c = some inQuote := by
  simp [step, inQuote, slash, quote]

theorem reachable_of_step {s t : Scan} {c : Char} (next : s.step c = some t) : t.Reachable := by
  unfold step at next
  split at next
  · obtain rfl := Option.some.inj next
    exact fun escaped => absurd escaped (by simp)
  next free =>
    split at next
    next mark =>
      obtain rfl := Option.some.inj next
      exact fun _ => (Bool.and_eq_true _ _ ▸ mark).2
    all_goals
      refine fun escaped => absurd ?_ free
      split at next <;> grind

theorem Reachable.run {s t : Scan} {text : List Char} (h : s.Reachable)
    (ran : s.run text = some t) : t.Reachable := by
  induction text generalizing s with
  | nil => exact Option.some.inj ran ▸ h
  | cons c rest ih =>
    rw [Scan.run] at ran
    split at ran
    · simp at ran
    next next => exact ih (reachable_of_step next) ran

theorem reachable_of_run {t : Scan} {text : List Char} (ran : start.run text = some t) :
    t.Reachable := by
  have reachable : start.Reachable := fun escaped => absurd escaped (by decide)
  exact reachable.run ran

/-- Outside brackets and quotes the scan is as at its start. -/
theorem Reachable.eq_start {s : Scan} (h : s.Reachable) (top : s.atTop = true) : s = start := by
  obtain ⟨depth, quoted, escaped⟩ := s
  simp only [atTop, Bool.and_eq_true, beq_iff_eq, Bool.not_eq_true'] at top
  obtain ⟨rfl, rfl⟩ := top
  cases escaped with
  | false => rfl
  | true => exact absurd (h rfl) (by simp)

/-! ## §2 — runs -/

theorem run_append (s : Scan) (a b : List Char) :
    s.run (a ++ b) = (s.run a).bind fun t => t.run b := by
  induction a generalizing s with
  | nil => rfl
  | cons c rest ih =>
    rw [List.cons_append, run, run]
    cases s.step c with
    | none => rfl
    | some t => exact ih t

theorem step_under {s t : Scan} {c : Char} (n : Nat) (h : s.step c = some t) :
    (s.under n).step c = some (t.under n) := by
  obtain ⟨depth, quoted, escaped⟩ := s
  simp only [step] at h ⊢
  cases depth with
  | zero => grind [under]
  | succ d =>
    have deeper : d + 1 + n = d + n + 1 := by omega
    grind [under]

/-- **Brackets around a text do not change its scan.** -/
theorem run_under {s t : Scan} {text : List Char} (n : Nat) (h : s.run text = some t) :
    (s.under n).run text = some (t.under n) := by
  induction text generalizing s with
  | nil => exact congrArg (some <| under n ·) (Option.some.inj h)
  | cons c rest ih =>
    rw [run] at h ⊢
    split at h
    · simp at h
    next next =>
      rw [step_under n next]
      exact ih h

/-- No comma of the text ends an item when it is read from the state `s`. -/
def Guards (s : Scan) (text : List Char) : Prop :=
  ∀ before after, text = before ++ ',' :: after → ∀ t, s.run before = some t → t.splits = false

theorem guards_nil (s : Scan) : s.Guards [] :=
  fun before _ h => absurd h (by cases before <;> simp)

theorem guards_cons {s : Scan} {c : Char} {rest : List Char} :
    s.Guards (c :: rest) ↔
      (c = ',' → s.splits = false) ∧ ∀ t, s.step c = some t → t.Guards rest := by
  constructor
  · intro h
    refine ⟨fun comma => h [] rest (by rw [comma]; rfl) s rfl, ?_⟩
    intro t next before after same u ran
    refine h (c :: before) after (by rw [same]; rfl) u ?_
    rw [run, next]
    exact ran
  · rintro ⟨first, later⟩ before after same u ran
    cases before with
    | nil =>
      obtain ⟨rfl, -⟩ := List.cons.inj same
      exact Option.some.inj ran ▸ first rfl
    | cons b before =>
      obtain ⟨rfl, behind⟩ := List.cons.inj same
      rw [run] at ran
      split at ran
      · simp at ran
      next t next => exact later t next before after behind u ran

theorem Guards.append {s t : Scan} {a b : List Char} (first : s.Guards a) (ran : s.run a = some t)
    (second : t.Guards b) : s.Guards (a ++ b) := by
  induction a generalizing s with
  | nil => exact Option.some.inj ran ▸ second
  | cons c rest ih =>
    obtain ⟨comma, later⟩ := guards_cons.1 first
    refine guards_cons.2 ⟨comma, fun u next => ?_⟩
    rw [run, next] at ran
    exact ih (later u next) ran

/-- Inside brackets every comma is guarded. -/
theorem guards_under {s t : Scan} {text : List Char} (n : Nat) (h : s.run text = some t) :
    (s.under (n + 1)).Guards text := by
  rintro before after rfl u ran
  rw [run_append] at h
  obtain ⟨v, prior, -⟩ := Option.bind_eq_some_iff.1 h
  rw [run_under (n + 1) prior] at ran
  obtain rfl := Option.some.inj ran
  simp [splits, atTop, under]

end Scan

/-! ## §3 — texts in one piece -/

/-- The marks of the scan, and the comma. -/
def itemMarks : List Char :=
  ['\\', '"', '(', ')', ',']

/-- **A text in one piece**: as an item of a list it is not split. -/
structure OnePiece (text : List Char) : Prop where
  /-- It never closes a bracket it did not open, and ends outside brackets and quotes. -/
  balanced : ∃ s, Scan.start.run text = some s ∧ s.atTop = true
  /-- It has no comma outside brackets and quotes. -/
  guarded : Scan.start.Guards text

namespace OnePiece

open Scan (Guards guards_nil guards_cons guards_under run_append run_under)

variable {a b text : List Char}

theorem run (h : OnePiece text) : Scan.start.run text = some .start := by
  obtain ⟨s, ran, top⟩ := h.balanced
  rw [ran, (Scan.reachable_of_run ran).eq_start top]

theorem of_run (ran : Scan.start.run text = some .start) (guarded : Scan.start.Guards text) :
    OnePiece text :=
  ⟨⟨_, ran, rfl⟩, guarded⟩

theorem nil : OnePiece [] :=
  of_run rfl (guards_nil _)

theorem append (first : OnePiece a) (second : OnePiece b) : OnePiece (a ++ b) := by
  refine of_run ?_ (first.guarded.append first.run second.guarded)
  rw [run_append, first.run]
  exact second.run

/-- A character that is neither a mark of the scan nor a comma may stand anywhere. -/
theorem cons {c : Char} (plain : c ∉ itemMarks) (rest : OnePiece text) :
    OnePiece (c :: text) := by
  have unmarked : c ∉ ['\\', '"', '(', ')'] := fun mem => plain (List.mem_append_left [','] mem)
  have stays : Scan.start.step c = some .start := Scan.step_plain rfl unmarked
  refine of_run ?_ (guards_cons.2 ⟨?_, fun t next => ?_⟩)
  · rw [Scan.run, stays]
    exact rest.run
  · rintro rfl
    exact absurd plain (by decide)
  · rw [stays] at next
    exact Option.some.inj next ▸ rest.guarded

theorem of_plain (plain : ∀ c ∈ text, c ∉ itemMarks) : OnePiece text := by
  induction text with
  | nil => exact nil
  | cons c rest ih =>
    exact cons (plain c List.mem_cons_self) (ih fun d mem => plain d (List.mem_cons_of_mem _ mem))

/-- **A text that pairs its own brackets and quotes is in one piece between brackets**, whatever commas
it has. -/
theorem bracket (h : Scan.start.run text = some .start) : OnePiece ('(' :: (text ++ [')'])) := by
  have inside : (Scan.start.under 1).run text = some (Scan.start.under 1) := run_under 1 h
  refine of_run ?_ (guards_cons.2 ⟨by decide, fun t next => ?_⟩)
  · show (Scan.start.under 1).run (text ++ [')']) = _
    rw [run_append, inside]
    rfl
  · obtain rfl : Scan.start.under 1 = t := Option.some.inj next
    exact (guards_under 0 h).append inside (guards_cons.2 ⟨by decide, fun _ _ => guards_nil _⟩)

end OnePiece

/-! ## §4 — lists -/

/-- Put a text in front of the first piece. -/
def prependHead (text : List Char) : List (List Char) → List (List Char) :=
  fun pieces => text.foldr consHead pieces

theorem prependHead_cons (text piece : List Char) (pieces : List (List Char)) :
    prependHead text (piece :: pieces) = (text ++ piece) :: pieces := by
  induction text with
  | nil => rfl
  | cons c rest ih =>
    show consHead c (prependHead rest (piece :: pieces)) = _
    rw [ih]
    rfl

/-- A text without a comma that splits goes into the first piece as a whole. -/
theorem splitFrom_append {s t : Scan} {text : List Char} (ran : s.run text = some t)
    (guarded : s.Guards text) (rest : List Char) :
    splitFrom s (text ++ rest) = (splitFrom t rest).map (prependHead text) := by
  induction text generalizing s with
  | nil =>
    obtain rfl := Option.some.inj ran
    exact Option.map_id'.symm
  | cons c more ih =>
    obtain ⟨comma, later⟩ := Scan.guards_cons.1 guarded
    have kept : ¬ (c = ',' ∧ s.splits = true) := fun h => by simp [comma h.1] at h
    rw [Scan.run] at ran
    rw [List.cons_append, splitFrom, if_neg (by simpa using kept)]
    split at ran
    · simp at ran
    next u next =>
      show (splitFrom u (more ++ rest)).map (consHead c) = _
      rw [ih ran (later u next), Option.map_map]
      rfl

theorem splitTopLevel_onePiece {text : List Char} (h : OnePiece text) :
    splitTopLevel text = some [text] := by
  have split := splitFrom_append h.run h.guarded []
  rw [List.append_nil] at split
  have alone : prependHead text [[]] = [text] := by rw [prependHead_cons, List.append_nil]
  exact split.trans (congrArg some alone)

theorem splitTopLevel_cons {text : List Char} (h : OnePiece text) (rest : List Char) :
    splitTopLevel (text ++ ',' :: rest) = (splitTopLevel rest).map (text :: ·) := by
  rw [splitTopLevel, splitFrom_append h.run h.guarded]
  show ((splitFrom .start rest).map ([] :: ·)).map (prependHead text) = _
  rw [Option.map_map]
  congr 1
  funext pieces
  exact (prependHead_cons text [] pieces).trans (by rw [List.append_nil])

/-- **A list is split into the items it was made of.** -/
theorem splitTopLevel_intercalate {parts : List (List Char)} (filled : parts ≠ [])
    (whole : ∀ part ∈ parts, OnePiece part) : splitTopLevel ([','].intercalate parts) = some parts := by
  induction parts with
  | nil => exact absurd rfl filled
  | cons part rest ih =>
    have first := whole part List.mem_cons_self
    cases rest with
    | nil =>
      rw [List.intercalate_singleton]
      exact splitTopLevel_onePiece first
    | cons next more =>
      have later := ih (List.cons_ne_nil _ _) fun p mem => whole p (List.mem_cons_of_mem _ mem)
      rw [List.intercalate_cons_cons, List.append_assoc, List.singleton_append,
        splitTopLevel_cons first, later]
      rfl

/-- A list pairs its brackets and quotes when its items do. -/
theorem run_intercalate {parts : List (List Char)} (whole : ∀ part ∈ parts, OnePiece part) :
    Scan.start.run ([','].intercalate parts) = some .start := by
  induction parts with
  | nil => rfl
  | cons part rest ih =>
    have first := whole part List.mem_cons_self
    have later := ih fun p mem => whole p (List.mem_cons_of_mem _ mem)
    cases rest with
    | nil =>
      rw [List.intercalate_singleton]
      exact first.run
    | cons next more =>
      rw [List.intercalate_cons_cons, List.append_assoc, Scan.run_append, first.run]
      exact later

/-- What a list keeps of its characters, apart from the commas between its items. -/
theorem filter_intercalate {p : Char → Bool} (comma : p ',' = false) (parts : List (List Char)) :
    ([','].intercalate parts).filter p = parts.flatMap (List.filter p) := by
  induction parts with
  | nil => rfl
  | cons part rest ih =>
    cases rest with
    | nil => simp
    | cons next more =>
      rw [List.intercalate_cons_cons, List.filter_append, List.filter_append, ih,
        List.filter_cons_of_neg (by simp [comma]), List.filter_nil, List.append_nil]
      rfl

theorem notMem_intercalate {c : Char} (other : c ≠ ',') {parts : List (List Char)}
    (none : ∀ part ∈ parts, c ∉ part) : c ∉ [','].intercalate parts := by
  intro mem
  have kept : c ∈ ([','].intercalate parts).filter (· == c) :=
    List.mem_filter.2 ⟨mem, beq_self_eq_true c⟩
  rw [filter_intercalate (p := (· == c)) (beq_eq_false_iff_ne.2 other.symm), List.mem_flatMap] at kept
  obtain ⟨part, inside, kept⟩ := kept
  exact none part inside (List.mem_filter.1 kept).1

/-- Items between brackets, separated by commas. -/
def bracketList (parts : List (List Char)) : List Char :=
  '(' :: ([','].intercalate parts ++ [')'])

theorem OnePiece.bracketList {parts : List (List Char)} (whole : ∀ part ∈ parts, OnePiece part) :
    OnePiece (bracketList parts) :=
  bracket (run_intercalate whole)

/-! ## §5 — splitting tells the texts in one piece -/

theorem splitFrom_ne_nil {s : Scan} {text : List Char} {pieces : List (List Char)}
    (h : splitFrom s text = some pieces) : pieces ≠ [] := by
  cases text with
  | nil =>
    rw [splitFrom] at h
    split at h
    · rw [← Option.some.inj h]
      exact List.cons_ne_nil _ _
    · simp at h
  | cons c rest =>
    rw [splitFrom] at h
    split at h
    · obtain ⟨more, -, rfl⟩ := Option.map_eq_some_iff.1 h
      exact List.cons_ne_nil _ _
    · split at h
      · simp at h
      · obtain ⟨more, -, rfl⟩ := Option.map_eq_some_iff.1 h
        cases more <;> exact List.cons_ne_nil _ _

/-- A character in front of the first item is one in front of the list. -/
theorem intercalate_consHead (c : Char) {pieces : List (List Char)} (filled : pieces ≠ []) :
    [','].intercalate (consHead c pieces) = c :: [','].intercalate pieces := by
  cases pieces with
  | nil => exact absurd rfl filled
  | cons first others => cases others <;> rfl

/-- **The items and the commas between them are the whole text.** -/
theorem intercalate_of_splitFrom {s : Scan} {text : List Char} {pieces : List (List Char)}
    (h : splitFrom s text = some pieces) : [','].intercalate pieces = text := by
  induction text generalizing s pieces with
  | nil =>
    rw [splitFrom] at h
    split at h
    · rw [← Option.some.inj h]
      rfl
    · simp at h
  | cons c rest ih =>
    rw [splitFrom] at h
    split at h
    next splits =>
      obtain ⟨more, found, rfl⟩ := Option.map_eq_some_iff.1 h
      rw [Bool.and_eq_true, decide_eq_true_eq] at splits
      rw [List.intercalate_cons_of_ne_nil (splitFrom_ne_nil found), ih found, splits.1]
      rfl
    · split at h
      · simp at h
      · obtain ⟨more, found, rfl⟩ := Option.map_eq_some_iff.1 h
        rw [intercalate_consHead c (splitFrom_ne_nil found), ih found]

/-- A comma ends an item only where the scan is as at its start. -/
theorem Scan.eq_start_of_splits {s : Scan} (h : s.splits = true) : s = start := by
  obtain ⟨depth, quoted, escaped⟩ := s
  simpa [splits, atTop, start, and_assoc] using h

/-- **Every item is in one piece**; the first one is so where the text begins. -/
theorem pieces_of_splitFrom {s : Scan} {text first : List Char} {others : List (List Char)}
    (h : splitFrom s text = some (first :: others)) :
    ((∃ t, s.run first = some t ∧ t.atTop = true) ∧ s.Guards first) ∧
      ∀ piece ∈ others, OnePiece piece := by
  induction text generalizing s first others with
  | nil =>
    rw [splitFrom] at h
    split at h
    next top =>
      obtain ⟨rfl, rfl⟩ := List.cons.inj (Option.some.inj h)
      exact ⟨⟨⟨s, rfl, top⟩, Scan.guards_nil s⟩, List.forall_mem_nil _⟩
    · simp at h
  | cons c rest ih =>
    rw [splitFrom] at h
    split at h
    next splits =>
      obtain ⟨pieces, found, same⟩ := Option.map_eq_some_iff.1 h
      obtain ⟨rfl, rfl⟩ := List.cons.inj same
      obtain rfl := Scan.eq_start_of_splits (Bool.and_eq_true _ _ ▸ splits).2
      refine ⟨⟨⟨.start, rfl, rfl⟩, Scan.guards_nil _⟩, ?_⟩
      cases pieces with
      | nil => exact absurd rfl (splitFrom_ne_nil found)
      | cons second more =>
        obtain ⟨⟨ends, guarded⟩, later⟩ := ih found
        exact List.forall_mem_cons.2 ⟨⟨ends, guarded⟩, later⟩
    next kept =>
      split at h
      · simp at h
      next t next =>
        obtain ⟨pieces, found, same⟩ := Option.map_eq_some_iff.1 h
        cases pieces with
        | nil => exact absurd rfl (splitFrom_ne_nil found)
        | cons piece more =>
          obtain ⟨rfl, rfl⟩ := List.cons.inj same
          obtain ⟨⟨ends, guarded⟩, later⟩ := ih found
          refine ⟨⟨?_, Scan.guards_cons.2 ⟨fun comma => ?_, fun u other => ?_⟩⟩, later⟩
          · rw [Scan.run, next]
            exact ends
          · simpa [comma] using kept
          · rw [next] at other
            exact Option.some.inj other ▸ guarded

theorem onePiece_of_splitTopLevel {text : List Char} {pieces : List (List Char)}
    (h : splitTopLevel text = some pieces) : ∀ piece ∈ pieces, OnePiece piece := by
  cases pieces with
  | nil => exact List.forall_mem_nil _
  | cons first others =>
    obtain ⟨⟨ends, guarded⟩, later⟩ := pieces_of_splitFrom h
    exact List.forall_mem_cons.2 ⟨⟨ends, guarded⟩, later⟩

/-- **Exactly the texts in one piece are not split.** -/
theorem onePiece_iff {text : List Char} : OnePiece text ↔ splitTopLevel text = some [text] :=
  ⟨splitTopLevel_onePiece, fun h => onePiece_of_splitTopLevel h text (List.mem_singleton_self text)⟩

/-- **A text that pairs its brackets and quotes is split.** -/
theorem exists_splitFrom {s t : Scan} {text : List Char} (ran : s.run text = some t)
    (top : t.atTop = true) : ∃ pieces, splitFrom s text = some pieces := by
  induction text generalizing s with
  | nil =>
    obtain rfl := Option.some.inj ran
    exact ⟨_, if_pos top⟩
  | cons c rest ih =>
    rw [Scan.run] at ran
    split at ran
    · simp at ran
    next u next =>
      obtain ⟨pieces, found⟩ := ih ran
      rw [splitFrom]
      split
      next splits =>
        -- A comma does not move the scan.
        rw [Bool.and_eq_true, decide_eq_true_eq] at splits
        obtain ⟨rfl, splits⟩ := splits
        obtain rfl := Scan.eq_start_of_splits splits
        obtain rfl : Scan.start = u := Option.some.inj next
        exact ⟨[] :: pieces, Option.map_eq_some_iff.2 ⟨pieces, found, rfl⟩⟩
      · refine ⟨consHead c pieces, ?_⟩
        rw [next]
        exact Option.map_eq_some_iff.2 ⟨pieces, found, rfl⟩

/-! ## §6 — lists without guarded commas -/

/-- A text is cut at each of its commas. -/
theorem fields_cons (c : Char) (rest : List Char) : fields ',' (c :: rest) =
    if c = ',' then [] :: fields ',' rest else consHead c (fields ',' rest) := by
  by_cases comma : c = ','
  · rw [if_pos comma, fields, fieldsBy, if_pos (beq_iff_eq.2 comma), fields]
  · rw [if_neg comma, fields, fieldsBy, if_neg (mt beq_iff_eq.1 comma)]
    rfl

/-- The pieces between commas are parts of the text. -/
theorem mem_of_mem_fields {text piece : List Char} {c : Char} (mem : piece ∈ fields ',' text)
    (inside : c ∈ piece) : c ∈ text := by
  induction text generalizing piece with
  | nil =>
    obtain rfl := List.mem_singleton.1 mem
    exact inside
  | cons d rest ih =>
    rw [fields_cons] at mem
    split at mem
    · rcases List.mem_cons.1 mem with rfl | mem
      · cases inside
      · exact List.mem_cons_of_mem d (ih mem inside)
    · cases pieces : fields ',' rest with
      | nil => exact absurd pieces (fieldsBy_ne_nil _ rest)
      | cons first others =>
        rw [pieces] at mem ih
        rcases List.mem_cons.1 mem with rfl | mem
        · rcases List.mem_cons.1 inside with rfl | inside
          · exact List.mem_cons_self
          · exact List.mem_cons_of_mem d (ih List.mem_cons_self inside)
        · exact List.mem_cons_of_mem d (ih (List.mem_cons_of_mem _ mem) inside)

theorem length_consHead (c : Char) {pieces : List (List Char)} (filled : pieces ≠ []) :
    (consHead c pieces).length = pieces.length := by
  cases pieces with
  | nil => exact absurd rfl filled
  | cons => rfl

/-- **There are no more items than pieces between commas**, and if there are as many, they are the
same. -/
theorem fields_of_splitFrom {s : Scan} {text : List Char} {pieces : List (List Char)}
    (h : splitFrom s text = some pieces) : pieces.length ≤ (fields ',' text).length ∧
      (pieces.length = (fields ',' text).length → pieces = fields ',' text) := by
  induction text generalizing s pieces with
  | nil =>
    rw [splitFrom] at h
    split at h
    · obtain rfl := Option.some.inj h
      exact ⟨Nat.le_refl 1, fun _ => rfl⟩
    · simp at h
  | cons c rest ih =>
    rw [splitFrom] at h
    rw [fields_cons]
    split at h
    next splits =>
      rw [Bool.and_eq_true, decide_eq_true_eq] at splits
      obtain ⟨more, found, rfl⟩ := Option.map_eq_some_iff.1 h
      obtain ⟨le, same⟩ := ih found
      rw [if_pos splits.1, List.length_cons, List.length_cons]
      exact ⟨Nat.succ_le_succ le, fun sizes => congrArg ([] :: ·) (same (Nat.succ.inj sizes))⟩
    · split at h
      · simp at h
      next t _ =>
        obtain ⟨more, found, rfl⟩ := Option.map_eq_some_iff.1 h
        obtain ⟨le, same⟩ := ih found
        rw [length_consHead c (splitFrom_ne_nil found)]
        -- A comma that is kept leaves one item fewer.
        by_cases comma : c = ','
        · rw [if_pos comma, List.length_cons]
          exact ⟨Nat.le_succ_of_le le, fun sizes => absurd sizes (by omega)⟩
        · have some : fields ',' rest ≠ [] := fieldsBy_ne_nil _ rest
          rw [if_neg comma, length_consHead c some]
          exact ⟨le, fun sizes => congrArg (consHead c) (same sizes)⟩

/-- Without brackets and quotes every comma separates items. -/
theorem splitTopLevel_unmarked {text : List Char} (unmarked : ∀ c ∈ text, c ∉ ['"', '(', ')']) :
    splitTopLevel text = some (fields ',' text) := by
  rw [splitTopLevel]
  induction text with
  | nil => rfl
  | cons c rest ih =>
    have here := unmarked c List.mem_cons_self
    have later := ih fun d mem => unmarked d (List.mem_cons_of_mem c mem)
    simp only [List.mem_cons, List.not_mem_nil, or_false, not_or] at here
    have stays : Scan.start.step c = some .start := by simp [Scan.step, Scan.start, here]
    have top : Scan.start.splits = true := rfl
    rw [splitFrom, fields_cons, stays]
    by_cases comma : c = ','
    · simp [comma, later, top]
    · simp [comma, later]

end Gateway.Text
