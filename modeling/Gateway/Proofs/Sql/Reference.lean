import Gateway.Proofs.Except
import Gateway.Sql.Select
import Mathlib.Data.List.Forall2

/-!
# Which column refers to a related table

An embed is joined on a column of the outer table. Four sources may name it: the client's hint, the
declarations of the deployment, the label of the embed, and the English singular of the related table.
`Names` says what each of them names, read off the text of the declarations and the embed alone.

The first of the sources whose column is known decides (`resolve_first`). Without one the embed is `NULL`
under its key, and a text of declarations with a malformed entry is refused as a whole.
-/

namespace Gateway.Sql

open Gateway.Text

/-! ## §1 — declarations -/

/-- An entry `table.key=column` declares a relationship; each name may be spelled in any way that is read as
the name. -/
def Declares (entry : List Char) (r : Relationship) : Prop :=
  ∃ path table key column, entry = path ++ '=' :: column ∧ trim path = table ++ '.' :: key ∧
    Identifier.read? table = some r.outer ∧ Identifier.read? key = some r.key ∧
    Identifier.read? (trim column) = some r.column

/-- The entries of a text of declarations, without the blanks around them; empty ones do not count. -/
def Relationships.entries (raw : String) : List (List Char) :=
  ((raw.toList.splitOnP fun c => c == ';' || c == ',').map trim).filter (!·.isEmpty)

theorem Relationship.read_eq_ok_iff {entry : List Char} {r : Relationship} :
    Relationship.read entry = .ok r ↔ Declares entry r := by
  constructor
  · intro h
    rw [Relationship.read] at h
    split at h
    next path column found =>
      split at h
      next table key pointed =>
        obtain ⟨outer, first, h⟩ := bind_eq_ok_iff.1 h
        obtain ⟨label, second, h⟩ := bind_eq_ok_iff.1 h
        obtain ⟨reference, third, h⟩ := bind_eq_ok_iff.1 h
        obtain rfl := Except.ok.inj h
        exact ⟨path, table, key, column, (cut_eq_some_iff.1 found).1, (cut_eq_some_iff.1 pointed).1,
          Identifier.read_eq_ok_iff.1 first, Identifier.read_eq_ok_iff.1 second,
          Identifier.read_eq_ok_iff.1 third⟩
      next => cases h
    next => cases h
  · rintro ⟨path, table, key, column, split, pointed, first, second, third⟩
    have noPoint : '.' ∉ table :=
      notMem_of_isSpelling (Identifier.isSpelling_of_read? first) (by decide)
    -- A sign in the path would be one in a name, since a trim keeps it.
    have noSign : '=' ∉ path := by
      intro mem
      have kept := mem_trim_of_mem (by decide) mem
      rw [pointed, List.mem_append, List.mem_cons] at kept
      rcases kept with mem | same | mem
      · exact notMem_of_isSpelling (Identifier.isSpelling_of_read? first) (by decide) mem
      · exact absurd same (by decide)
      · exact notMem_of_isSpelling (Identifier.isSpelling_of_read? second) (by decide) mem
    rw [Relationship.read, cut_eq_some_iff.2 ⟨split, noSign⟩]
    dsimp only
    rw [cut_eq_some_iff.2 ⟨pointed, noPoint⟩]
    dsimp only
    rw [Identifier.read_eq_ok_iff.2 first, Identifier.read_eq_ok_iff.2 second,
      Identifier.read_eq_ok_iff.2 third]
    rfl

/-- An entry declares one relationship. -/
theorem Declares.unique {entry : List Char} {r s : Relationship} (first : Declares entry r)
    (second : Declares entry s) : r = s :=
  Except.ok.inj ((Relationship.read_eq_ok_iff.2 first).symm.trans (Relationship.read_eq_ok_iff.2 second))

/-- **A text of declarations is read entry by entry.** -/
theorem Relationships.read_eq_ok_iff {raw : String} {declared : Relationships} :
    Relationships.read raw = .ok declared ↔ List.Forall₂ Declares (entries raw) declared := by
  have each : (fun entry r => Relationship.read entry = .ok r) = Declares := by
    funext entry r
    exact propext Relationship.read_eq_ok_iff
  rw [Relationships.read, fieldsBy_eq_splitOnP, mapM_eq_ok_iff, each, entries]

/-- **One malformed entry refuses the text, wherever it stands**, and nothing else does. -/
theorem Relationships.read_refused_iff {raw : String} :
    (∃ e, Relationships.read raw = .error e) ↔ ∃ entry ∈ entries raw, ∀ r, ¬ Declares entry r := by
  rw [Relationships.read, fieldsBy_eq_splitOnP, mapM_refused_iff, entries]
  refine exists_congr fun entry => and_congr_right fun _ => ?_
  rw [exists_error_iff]
  exact forall_congr' fun r => not_congr Relationship.read_eq_ok_iff

/-! ## §2 — the last declaration -/

/-- The last of the entries for the table and the key declares this column. -/
def LastDeclares (entries : List (List Char)) (outer key column : Identifier) : Prop :=
  ∃ before entry after, entries = before ++ entry :: after ∧ Declares entry ⟨outer, key, column⟩ ∧
    ∀ later ∈ after, ∀ other, ¬ Declares later ⟨outer, key, other⟩

theorem Relationships.column?_eq_some_iff {declared : Relationships} {outer key column : Identifier} :
    declared.column? outer key = some column ↔
      ∃ before after, declared = before ++ ⟨outer, key, column⟩ :: after ∧
        ∀ later ∈ after, ∀ other, later ≠ ⟨outer, key, other⟩ := by
  rw [column?, Option.map_eq_some_iff]
  constructor
  · rintro ⟨r, found, rfl⟩
    obtain ⟨fits, after, before, split, others⟩ := List.find?_eq_some_iff_append.1 found
    rw [Bool.and_eq_true, beq_iff_eq, beq_iff_eq] at fits
    obtain ⟨rfl, rfl⟩ := fits
    refine ⟨before.reverse, after.reverse, by simpa using congrArg List.reverse split, ?_⟩
    rintro later mem other rfl
    simpa using others _ (List.mem_reverse.1 mem)
  · rintro ⟨before, after, rfl, others⟩
    refine ⟨⟨outer, key, column⟩, List.find?_eq_some_iff_append.2 ⟨by simp, after.reverse,
      before.reverse, by simp, fun later mem => ?_⟩, rfl⟩
    rw [Bool.not_eq_true', Bool.eq_false_iff]
    intro fits
    rw [Bool.and_eq_true, beq_iff_eq, beq_iff_eq] at fits
    refine others later (List.mem_reverse.1 mem) later.column ?_
    rw [← fits.1, ← fits.2]

/-- **The last declaration counts.** -/
theorem column?_eq_some_iff_lastDeclares {entries : List (List Char)} {declared : Relationships}
    (pairs : List.Forall₂ Declares entries declared) {outer key column : Identifier} :
    declared.column? outer key = some column ↔ LastDeclares entries outer key column := by
  rw [Relationships.column?_eq_some_iff]
  constructor
  · rintro ⟨before, after, rfl, others⟩
    obtain ⟨front, entry, back, rfl, here, behind⟩ := exists_append_of_forall₂ pairs
    refine ⟨front, entry, back, rfl, here, fun later mem other declares => ?_⟩
    obtain ⟨r, inside, same⟩ := exists_of_mem_forall₂ behind.flip mem
    exact others r inside other (Declares.unique same declares)
  · rintro ⟨before, entry, after, rfl, here, others⟩
    obtain ⟨front, r, back, rfl, same, behind⟩ := exists_append_of_forall₂ pairs.flip
    obtain rfl := Declares.unique same here
    refine ⟨front, back, rfl, ?_⟩
    rintro later mem other rfl
    obtain ⟨text, inside, declares⟩ := exists_of_mem_forall₂ behind.flip mem
    exact others text inside other declares

/-! ## §3 — singulars -/

/-- **The English singular of a table's name**: `ies` becomes `y`, a double `s` stays, and a single `s` at
the end is left out. -/
inductive IsSingular : List Char → List Char → Prop where
  | ies (stem : List Char) : IsSingular (stem ++ "ies".toList) (stem ++ "y".toList)
  | double (stem : List Char) : IsSingular (stem ++ "ss".toList) (stem ++ "ss".toList)
  | plural (stem : List Char) (ie : ¬ "ie".toList <:+ stem) (s : ¬ "s".toList <:+ stem) :
      IsSingular (stem ++ "s".toList) stem
  | same (table : List Char) (s : ¬ "s".toList <:+ table) : IsSingular table table

theorem dropBack?_eq_none_iff {back : String} {s : List Char} :
    dropBack? back s = none ↔ ¬ back.toList <:+ s := by
  rw [Option.eq_none_iff_forall_ne_some]
  constructor
  · rintro none ⟨t, split⟩
    exact none t (dropBack?_eq_some_iff.2 split.symm)
  · rintro other t found
    exact other ⟨t, (dropBack?_eq_some_iff.1 found).symm⟩

theorem isSingular_iff {table stem : List Char} : IsSingular table stem ↔ stem = singular table := by
  constructor
  · intro h
    rw [singular]
    cases h with
    | ies stem =>
      rw [dropBack?_eq_some_iff.2 rfl]
      rfl
    | double stem =>
      have ies : dropBack? "ies" (stem ++ "ss".toList) = none := by
        refine dropBack?_eq_none_iff.2 fun ends => ?_
        have clash : "ss".toList <:+ "ies".toList :=
          List.suffix_of_suffix_length_le (List.suffix_append stem _) ends (by decide)
        exact absurd clash (by decide)
      rw [ies, dropBack?_eq_some_iff.2 rfl]
      rfl
    | plural stem ie s =>
      have ies : dropBack? "ies" (stem ++ "s".toList) = none := by
        rw [dropBack?_eq_none_iff]
        exact fun ends => ie (List.suffix_append_self_iff.1 ends)
      have double : dropBack? "ss" (stem ++ "s".toList) = none := by
        rw [dropBack?_eq_none_iff]
        exact fun ends => s (List.suffix_append_self_iff.1 ends)
      rw [ies, double, dropBack?_eq_some_iff.2 rfl]
      rfl
    | same table s =>
      have none {back : String} (ends : "s".toList <:+ back.toList) : dropBack? back table = none :=
        dropBack?_eq_none_iff.2 fun other => s (ends.trans other)
      rw [none ⟨"ie".toList, rfl⟩, none ⟨"s".toList, rfl⟩, none List.suffix_rfl]
      rfl
  · rintro rfl
    rw [singular]
    split
    next stem found =>
      rw [dropBack?_eq_some_iff.1 found]
      exact .ies stem
    next notIes =>
      split
      next double =>
        obtain ⟨stem, found⟩ := Option.isSome_iff_exists.1 double
        rw [dropBack?_eq_some_iff.1 found]
        exact .double stem
      next notDouble =>
        rw [dropBack?_eq_none_iff] at notIes
        rw [Option.not_isSome_iff_eq_none, dropBack?_eq_none_iff] at notDouble
        cases found : dropBack? "s" table with
        | none => exact .same table (dropBack?_eq_none_iff.1 found)
        | some stem =>
          obtain rfl := dropBack?_eq_some_iff.1 found
          exact .plural stem (fun ie => notIes (List.suffix_append_self_iff.2 ie))
            fun s => notDouble (List.suffix_append_self_iff.2 s)

/-! ## §4 — sources -/

/-- A source of a reference. -/
inductive Source where
  | hint
  | declared
  | labelled
  | guessed
deriving DecidableEq, Repr

/-- The sources, the ones that come first in front. -/
def Source.order : List Source :=
  [hint, declared, labelled, guessed]

theorem Source.mem_order (source : Source) : source ∈ order := by
  cases source <;> decide

section
variable (entries : List (List Char)) (outer : Identifier) (e : Embed)

/-- **The column that a source names**, if it names one. -/
def Names : Source → String → Prop
  | .hint, text => ∃ column, e.hint = some column ∧ text = column.text
  | .declared, text => ∃ column, LastDeclares entries outer e.key column ∧ text = column.text
  | .labelled, text => ∃ label, e.label = some label ∧ text = label.text ++ "_id"
  | .guessed, text => ∃ stem, IsSingular e.table.text.toList stem ∧ text = String.ofList stem ++ "_id"

/-- A column counts when it is known, or when nothing is known. -/
def Qualifies (known : Option (List String)) (text : String) : Prop :=
  ∀ columns, known = some columns → text ∈ columns

/-- The first of the sources that name a column that counts, names this one. -/
def FirstNames (known : Option (List String)) (text : String) : Prop :=
  ∃ earlier source later, Source.order = earlier ++ source :: later ∧
    Names entries outer e source text ∧ Qualifies known text ∧
    ∀ s ∈ earlier, ∀ other, Names entries outer e s other → ¬ Qualifies known other

end

namespace EmbedResolver

/-- What is found at a source. -/
def candidate? (r : EmbedResolver) (outer : Identifier) (e : Embed) : Source → Option Identifier
  | .hint => e.hint
  | .declared => r.relationships.column? outer e.key
  | .labelled => e.label.bind fun label => Identifier.withIdSuffix label.text.toList
  | .guessed => Identifier.withIdSuffix (singular e.table.text.toList)

variable {r : EmbedResolver} {outer : Identifier} {e : Embed} {column : Identifier} {source : Source}

/-- **The first candidate that is admitted is found by going through the sources.** -/
theorem resolve_eq : r.resolve outer e =
    Source.order.findSome? fun source => (r.candidate? outer e source).filter r.admits := by
  have candidates : r.candidates outer e = Source.order.filterMap (r.candidate? outer e) := by
    rw [List.filterMap_eq_flatMap_toList]
    simp [EmbedResolver.candidates, Source.order, candidate?]
  rw [resolve, candidates, ← List.head?_filter, List.filter_filterMap, List.head?_filterMap]

theorem admits_iff : r.admits column = true ↔ Qualifies r.knownColumns column.text := by
  rw [admits, Qualifies]
  cases r.knownColumns with
  | none => simp
  | some columns => simp

end EmbedResolver

/-! ## §5 — the first column that counts -/

/-- A label with `_id` behind it is a name. -/
theorem Identifier.isCanonical_append_id (name : Identifier) :
    isCanonical (name.text.toList ++ "_id".toList) = true := by
  have whole : isCanonical (name.text.toList ++ []) = true := by
    rw [List.append_nil]
    exact name.canonical
  exact isCanonical_append whole (by decide)

/-- A singular with `_id` behind it is a name. -/
theorem IsSingular.isCanonical_append_id {table : Identifier} {stem : List Char}
    (h : IsSingular table.text.toList stem) : isCanonical (stem ++ "_id".toList) = true := by
  have canonical := table.canonical
  have whole := table.isCanonical_append_id
  generalize table.text.toList = text at h canonical whole
  cases h with
  | double | same => exact whole
  | ies stem =>
    rw [List.append_assoc]
    exact isCanonical_append canonical (by decide)
  | plural stem => exact isCanonical_append canonical (by decide)

theorem Identifier.withIdSuffix_eq_some_iff {stem : List Char}
    (named : isCanonical (stem ++ "_id".toList) = true) {column : Identifier} :
    withIdSuffix stem = some column ↔ column.text = String.ofList stem ++ "_id" := by
  have suffixed : String.ofList (stem ++ "_id".toList) = String.ofList stem ++ "_id" := by
    rw [String.ofList_append, String.ofList_toList]
  rw [← suffixed]
  exact read?_eq_some_iff_of_isCanonical named

section
variable {entries : List (List Char)} {outer : Identifier} {e : Embed} {source : Source}

/-- **Whatever a source names is a valid name.** -/
theorem Names.isCanonical {text : String} (h : Names entries outer e source text) :
    isCanonical text.toList = true := by
  cases source with
  | hint | declared =>
    obtain ⟨column, -, rfl⟩ := h
    exact column.canonical
  | labelled =>
    obtain ⟨label, -, rfl⟩ := h
    rw [String.toList_append]
    exact label.isCanonical_append_id
  | guessed =>
    obtain ⟨stem, singular, rfl⟩ := h
    rw [String.toList_append, String.toList_ofList]
    exact singular.isCanonical_append_id

namespace EmbedResolver

variable {r : EmbedResolver} (pairs : List.Forall₂ Declares entries r.relationships)
include pairs

theorem candidate?_eq_some_iff {column : Identifier} :
    r.candidate? outer e source = some column ↔ Names entries outer e source column.text := by
  have same {c : Identifier} : column.text = c.text ↔ c = column :=
    Identifier.text_inj.trans eq_comm
  cases source with
  | hint => simp [candidate?, Names, same]
  | declared => simp [candidate?, Names, same, column?_eq_some_iff_lastDeclares pairs]
  | labelled =>
    rw [candidate?, Option.bind_eq_some_iff, Names]
    refine exists_congr fun label => and_congr_right fun _ => ?_
    rw [Identifier.withIdSuffix_eq_some_iff label.isCanonical_append_id, String.ofList_toList]
  | guessed =>
    have stem := isSingular_iff.2 (rfl : singular e.table.text.toList = _)
    rw [candidate?, Identifier.withIdSuffix_eq_some_iff stem.isCanonical_append_id, Names]
    simp only [isSingular_iff, exists_eq_left]

/-- A source is passed over when it names nothing that counts. -/
theorem passedOver_iff : (r.candidate? outer e source).filter r.admits = none ↔
    ∀ text, Names entries outer e source text → ¬ Qualifies r.knownColumns text := by
  rw [Option.filter_eq_none_iff]
  constructor
  · intro none text named qualifies
    exact none ⟨text, named.isCanonical⟩ ((candidate?_eq_some_iff pairs).2 named) (admits_iff.2 qualifies)
  · intro none column found admitted
    exact none column.text ((candidate?_eq_some_iff pairs).1 found) (admits_iff.1 admitted)

/-- **The first column that counts is the one that is taken.** -/
theorem resolve_eq_some_iff {column : Identifier} :
    r.resolve outer e = some column ↔ FirstNames entries outer e r.knownColumns column.text := by
  rw [resolve_eq, List.findSome?_eq_some_iff, FirstNames]
  refine exists_congr fun earlier => exists_congr fun source => exists_congr fun later =>
    and_congr_right fun _ => ?_
  rw [Option.filter_eq_some_iff, candidate?_eq_some_iff pairs, admits_iff, and_assoc]
  refine and_congr_right fun _ => and_congr_right fun _ => ?_
  exact forall₂_congr fun s _ => passedOver_iff pairs

theorem resolve_eq_none_iff : r.resolve outer e = none ↔
    ∀ source text, Names entries outer e source text → ¬ Qualifies r.knownColumns text := by
  rw [resolve_eq, List.findSome?_eq_none_iff]
  constructor
  · intro none source
    exact (passedOver_iff pairs).1 (none source source.mem_order)
  · intro none source _
    exact (passedOver_iff pairs).2 (none source)

end EmbedResolver

end

/-- **Exactly an embed without a reference is written as `NULL`.** -/
theorem Embed.sql_template_eq_null_iff (outer : Identifier) (r : EmbedResolver) (index : Nat) (e : Embed) :
    (e.template outer r index).sql = "NULL AS " ++ e.key.quoted ↔ r.resolve outer e = none := by
  rw [Embed.template, Template.sql]
  cases r.resolve outer e with
  | none =>
    refine iff_of_true ?_ rfl
    have bare : ("NULL" ++ " " ++ "AS" ++ " " : String) = "NULL AS " := by decide
    simp only [asName, Template.write, Word.text, String.append_empty, ← String.append_assoc, bare]
  | some reference =>
    -- A subquery starts with a bracket.
    refine iff_of_false (fun same => ?_) (Option.some_ne_none reference)
    have first := congrArg (fun text : String => text.toList.head?) same
    simp [Template.paren, Template.write, Symbol.text] at first

/-- **Which column an embed is joined on.** A text of declarations is refused exactly when one of its entries
declares nothing. Otherwise the embed is joined on the first column that a source names and that is known,
if columns are known; it is `NULL` under its key exactly when there is none. Whatever a source names is a
valid name. -/
theorem resolve_first (raw : String) :
    ((∃ e, Relationships.read raw = .error e) ↔
        ∃ entry ∈ Relationships.entries raw, ∀ r, ¬ Declares entry r) ∧
      ∀ declared, Relationships.read raw = .ok declared →
        ∀ (known : Option (List String)) (outer : Identifier) (e : Embed),
          let entries := Relationships.entries raw
          let r : EmbedResolver := ⟨declared, known⟩
          (∀ column, r.resolve outer e = some column ↔ FirstNames entries outer e known column.text) ∧
            (r.resolve outer e = none ↔
              ∀ source text, Names entries outer e source text → ¬ Qualifies known text) ∧
            (∀ index, (e.template outer r index).sql = "NULL AS " ++ e.key.quoted ↔
              r.resolve outer e = none) ∧
            ∀ source text, Names entries outer e source text → isCanonical text.toList = true := by
  refine ⟨Relationships.read_refused_iff, fun declared accepted known outer e => ?_⟩
  have pairs := Relationships.read_eq_ok_iff.1 accepted
  refine ⟨fun column => EmbedResolver.resolve_eq_some_iff pairs, EmbedResolver.resolve_eq_none_iff pairs,
    fun index => e.sql_template_eq_null_iff outer _ index, fun source text => Names.isCanonical⟩

/-- The second declaration for a key counts, and goes before the column of the embed's label. -/
theorem resolve_first_declared :
    let posts : Identifier := ⟨"posts", by decide⟩
    let author : Identifier := ⟨"author", by decide⟩
    let users : Identifier := ⟨"users", by decide⟩
    let reference : Identifier := ⟨"written_by", by decide⟩
    let raw := "posts.author=user_id; Posts.Author = written-by"
    let e : Embed := ⟨some author, users, none, .all⟩
    let known := some ["author_id", "written_by"]
    Relationships.read raw = .ok [⟨posts, author, ⟨"user_id", by decide⟩⟩, ⟨posts, author, reference⟩] ∧
      FirstNames (Relationships.entries raw) posts e known "written_by" ∧
      (∀ source text, Names (Relationships.entries raw) posts e source text →
        ¬ Qualifies (some ["id"]) text) ∧
      ∃ entry ∈ Relationships.entries "posts.author=user_id,posts=written_by", ∀ r, ¬ Declares entry r := by
  intro posts author users reference raw e known
  have accepted : Relationships.read raw =
      .ok [⟨posts, author, ⟨"user_id", by decide⟩⟩, ⟨posts, author, reference⟩] := by decide +kernel
  have resolved := (resolve_first raw).2 _ accepted
  refine ⟨accepted, ((resolved known posts e).1 reference).1 (by decide +kernel),
    (resolved (some ["id"]) posts e).2.1.1 (by decide +kernel), ?_⟩
  exact (resolve_first "posts.author=user_id,posts=written_by").1.1 ⟨_, rfl⟩

end Gateway.Sql
