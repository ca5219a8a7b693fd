import Gateway.Proofs.Json.Members
import Gateway.Proofs.Presence.Table
import Gateway.Proofs.Text.Uuid

/-!
# The view that a client keeps

A client is sent who is present when it joins a topic, and from then on what changes. `View.apply` is
what it does with a change: under each key it drops the entries whose reference has left and then adds
those that have come, and it forgets a key that has none left. A view is the payload itself, a JSON
object, so nothing here knows of connections or of the table that the frames come from.

A client is not told of its own entries. `Table.snapshotWithout` is the state of a topic with the
entries of one connection taken out, and the main statements say that the view follows it:
`apply_track` and `apply_untrack`, applying the difference that a step of another connection reports
leads from the state before to the state after; `snapshotWithout_track_self` and
`snapshotWithout_untrack_self`, a connection's own steps change nothing.
-/

namespace Gateway.Channel.Presence

open Gateway.Json (Sorted)

/-! ## §1 — a view and its changes -/

namespace View

/-- The members of an object; nothing for any other value. -/
def membersOf : Json → List (String × Json)
  | .obj members => members
  | _ => []

/-- The entries that the value of a key lists. -/
def metas (value : Json) : List Json :=
  match value.member? "metas" with
  | some (.arr items) => items
  | _ => []

/-- The reference of an entry. -/
def reference? (entry : Json) : Option String :=
  (entry.member? Entry.referenceMember).bind Json.str?

/-- The entries under a key of a view. -/
def metasAt (view : List (String × Json)) (key : String) : List Json :=
  (view.lookup key).elim [] metas

/-- Put the entries of a key in place; a key without entries is dropped. -/
def setMetas (view : List (String × Json)) (key : String) (entries : List Json) :
    List (String × Json) :=
  if entries.isEmpty then view.filter fun m => m.1 ≠ key
  else Json.insertMember key (.obj [("metas", .arr entries)]) view

/-- Drop the entries under a key whose reference is among those that have left. -/
def leave (view : List (String × Json)) (gone : String × Json) : List (String × Json) :=
  let references := (metas gone.2).map reference?
  setMetas view gone.1 ((metasAt view gone.1).filter fun m => !references.contains (reference? m))

/-- Add the entries that have come behind those under the same key. -/
def join (view : List (String × Json)) (come : String × Json) : List (String × Json) :=
  setMetas view come.1 (metasAt view come.1 ++ metas come.2)

/-- One side of a difference, by its name. -/
def side (diff : Json) (name : String) : List (String × Json) :=
  (diff.member? name).elim [] membersOf

/-- **Apply a difference to a view**: first what has left, then what has come. -/
def apply (view diff : Json) : Json :=
  .obj ((side diff "joins").foldl join ((side diff "leaves").foldl leave (membersOf view)))

end View

/-! ## §2 — the state of a topic without one connection -/

/-- Entries under a key as a member of a view has them; there is no member without entries. -/
def shown (entries : List Entry) : Option Json :=
  if entries.isEmpty then none else some (entriesValue entries)

namespace Table

/-- The keys of a topic with the entries of all connections but one; keys that are left without
entries are dropped. -/
def othersOf (t : Table) (c : ConnectionId) (topic : String) : List (String × List Entry) :=
  ((t.keysOf topic).entries.map fun (key, entries) =>
    (key, entries.filter (·.connection ≠ c))).filter fun (_, entries) => !entries.isEmpty

/-- **Who is present on a topic, without one connection**, as clients see it. -/
def snapshotWithout (t : Table) (c : ConnectionId) (topic : String) : Json :=
  Json.object ((t.othersOf c topic).map fun (key, entries) => (key, entriesValue entries))

end Table

/-! ## §3 — reading a state by its keys -/

/-- The look up of a key among entries whose values have been replaced. -/
theorem lookup_map_value {α : Type} (f : α → Json) (entries : List (String × α)) (key : String) :
    (entries.map fun (k, a) => (k, f a)).lookup key = (Keyed.find? key entries).map f := by
  induction entries with
  | nil => rfl
  | cons e rest ih =>
    obtain ⟨k, a⟩ := e
    rw [List.map_cons, Json.lookup_cons_eq, ih, Keyed.find?]
    by_cases h : k = key
    · simp [h]
    · simp [h, Ne.symm h]

/-- The look up of a key among entries that have been filtered and of which empty ones were dropped. -/
theorem find?_nonempty (p : Entry → Bool) {entries : List (String × List Entry)}
    (nodup : (entries.map (·.1)).Nodup) (key : String) :
    Keyed.find? key ((entries.map fun (k, es) => (k, es.filter p)).filter fun (_, es) => !es.isEmpty) =
      (Keyed.find? key entries).bind fun es =>
        if (es.filter p).isEmpty then none else some (es.filter p) := by
  induction entries with
  | nil => rfl
  | cons e rest ih =>
    obtain ⟨k, es⟩ := e
    rw [List.map_cons, List.nodup_cons] at nodup
    rw [List.map_cons, Keyed.find?]
    by_cases h : k = key
    · subst h
      rw [if_pos rfl, Option.bind_some]
      cases empty : (es.filter p).isEmpty with
      | false => simp [empty, Keyed.find?]
      | true =>
        have absent : Keyed.find? k rest = none := by
          rw [Option.eq_none_iff_forall_ne_some]
          intro a found
          exact nodup.1 (Keyed.mem_keys_iff.2 ⟨a, (Keyed.find?_eq_some_iff nodup.2).1 found⟩)
        rw [List.filter_cons_of_neg (by simp [empty]), ih nodup.2, absent]
        simp
    · rw [if_neg h, ← ih nodup.2]
      cases empty : (es.filter p).isEmpty with
      | false => simp [empty, Keyed.find?, h]
      | true => rw [List.filter_cons_of_neg (by simp [empty])]

namespace Table

variable {t t' : Table} {c d : ConnectionId} {topic key : String}

theorem sorted_snapshotWithout (t : Table) (c : ConnectionId) (topic : String) :
    Sorted (View.membersOf (t.snapshotWithout c topic)) :=
  Json.sorted_sortMembers _

theorem obj_membersOf_snapshotWithout (t : Table) (c : ConnectionId) (topic : String) :
    .obj (View.membersOf (t.snapshotWithout c topic)) = t.snapshotWithout c topic := rfl

/-- **The members of a state**: under each key the entries of the others, when there are any. -/
theorem lookup_snapshotWithout (t : Table) (c : ConnectionId) (topic key : String) :
    (View.membersOf (t.snapshotWithout c topic)).lookup key =
      shown ((t.entriesAt topic key).filter (·.connection ≠ c)) := by
  have nodup : ((((t.othersOf c topic).map fun (k, es) => (k, entriesValue es))).map (·.1)).Nodup := by
    refine (t.keysOf topic).nodup.sublist ?_
    have kept := (List.filter_sublist (p := fun e : String × List Entry => !e.2.isEmpty)
      (l := (t.keysOf topic).entries.map fun (k, es) =>
        (k, es.filter (·.connection ≠ c)))).map (·.1)
    simpa [othersOf, Function.comp_def] using kept
  have look := Json.lookup_sortMembers nodup key
  rw [lookup_map_value, othersOf, find?_nonempty _ (t.keysOf topic).nodup] at look
  refine look.trans ?_
  unfold entriesAt Keyed.get?
  cases Keyed.find? key (t.keysOf topic).entries with
  | none => rfl
  | some es =>
    rw [Option.bind_some, Option.getD_some, shown]
    split <;> rfl

/-- Two tables with the same entries of others under every key of a topic show the same state. -/
theorem snapshotWithout_congr
    (same : ∀ key, (t.entriesAt topic key).filter (·.connection ≠ c) =
      (t'.entriesAt topic key).filter (·.connection ≠ c)) :
    t.snapshotWithout c topic = t'.snapshotWithout c topic := by
  rw [← obj_membersOf_snapshotWithout t, ← obj_membersOf_snapshotWithout t']
  refine congrArg Json.obj ((sorted_snapshotWithout ..).ext (sorted_snapshotWithout ..) fun key => ?_)
  rw [lookup_snapshotWithout, lookup_snapshotWithout, same]

/-- **Without an entry of its own on a topic, a connection is shown all of it.** -/
theorem snapshotWithout_eq_snapshot (wf : t.WellFormed)
    (absent : ∀ key, ∀ e ∈ t.entriesAt topic key, e.connection ≠ c) :
    t.snapshotWithout c topic = t.snapshot topic := by
  have untouched : t.othersOf c topic = (t.keysOf topic).entries := by
    unfold othersOf
    have stays : ∀ e ∈ (t.keysOf topic).entries,
        (e.1, e.2.filter (·.connection ≠ c)) = e ∧ e.2 ≠ [] := by
      rintro ⟨key, entries⟩ he
      have found := Keyed.mem_entries_iff.1 he
      have here : t.entriesAt topic key = entries := by rw [entriesAt, found]; rfl
      refine ⟨Prod.ext rfl (List.filter_eq_self.2 fun e hm => ?_), ?_⟩
      · simpa using absent key e (here ▸ hm)
      · rintro rfl
        exact wf.keys topic key found
    rw [List.map_congr_left fun e he => (stays e he).1, List.map_id', List.filter_eq_self]
    intro e he
    simpa using (stays e he).2
  rw [snapshotWithout, untouched]
  rfl

end Table

/-! ## §4 — a view that shows given entries -/

theorem metas_entriesValue (entries : List Entry) :
    View.metas (entriesValue entries) = entries.map Entry.value := rfl

/-- Clients read off an entry the reference that it has. -/
theorem reference?_value (e : Entry) :
    View.reference? e.value = some (Entry.referenceText e.reference) := by
  have found : e.value.member? Entry.referenceMember =
      some (.str (Entry.referenceText e.reference)) := by
    show (Json.insertMember _ _ _).lookup _ = _
    rw [Json.lookup_insertMember, if_pos rfl]
  rw [View.reference?, found]
  rfl

/-- No two numbers give the same reference. -/
theorem referenceText_injective {m n : Nat} (h : Entry.referenceText m = Entry.referenceText n) :
    m = n :=
  Text.uuidDigits_injective (String.ofList_injective h)

namespace View

/-- A view has under each key exactly the given entries. -/
structure Shows (view : List (String × Json)) (entries : String → List Entry) : Prop where
  sorted : Sorted view
  lookup : ∀ key, view.lookup key = shown (entries key)

namespace Shows

variable {view : List (String × Json)} {entries : String → List Entry}

theorem ext {other : List (String × Json)} (h : Shows view entries) (o : Shows other entries) :
    view = other :=
  h.sorted.ext o.sorted fun key => (h.lookup key).trans (o.lookup key).symm

theorem congr (h : Shows view entries) {others : String → List Entry}
    (same : ∀ key, entries key = others key) : Shows view others :=
  ⟨h.sorted, fun key => same key ▸ h.lookup key⟩

theorem metasAt (h : Shows view entries) (key : String) :
    View.metasAt view key = (entries key).map Entry.value := by
  rw [View.metasAt, h.lookup, shown]
  split
  next empty => rw [List.isEmpty_iff.1 empty]; rfl
  next => rfl

theorem setMetas (h : Shows view entries) (key : String) (new : List Entry) :
    Shows (View.setMetas view key (new.map Entry.value))
      fun k => if k = key then new else entries k where
  sorted := by
    unfold View.setMetas
    split
    · exact h.sorted.filter _
    · exact h.sorted.insertMember _ _
  lookup k := by
    unfold View.setMetas
    rw [List.isEmpty_map]
    split
    next empty =>
      rw [Json.lookup_filter_ne, h.lookup]
      split
      · rw [shown, if_pos empty]
      · rfl
    next filled =>
      rw [Json.lookup_insertMember, h.lookup]
      split
      · rw [shown, if_neg filled]
        rfl
      · rfl

/-- Dropping what has left takes away the entry of that reference. -/
theorem leave (h : Shows view entries) (key : String) (gone : Entry) :
    Shows (View.leave view (key, entriesValue [gone]))
      fun k => if k = key then (entries key).filter (·.reference ≠ gone.reference) else entries k := by
  have kept : (View.metasAt view key).filter (fun m =>
        !((View.metas (entriesValue [gone])).map View.reference?).contains (View.reference? m)) =
      ((entries key).filter (·.reference ≠ gone.reference)).map Entry.value := by
    rw [h.metasAt, List.filter_map]
    refine congrArg _ (List.filter_congr fun e _ => ?_)
    have same : Entry.referenceText e.reference = Entry.referenceText gone.reference ↔
        e.reference = gone.reference := ⟨referenceText_injective, congrArg _⟩
    simp [metas_entriesValue, reference?_value, same]
  rw [View.leave, kept]
  exact h.setMetas key _

/-- Adding what has come puts the entry at the end. -/
theorem join (h : Shows view entries) (key : String) (come : Entry) :
    Shows (View.join view (key, entriesValue [come]))
      fun k => if k = key then entries key ++ [come] else entries k := by
  have grown : View.metasAt view key ++ View.metas (entriesValue [come]) =
      (entries key ++ [come]).map Entry.value := by
    rw [h.metasAt, metas_entriesValue, List.map_append]
  rw [View.join, grown]
  exact h.setMetas key _

end Shows

end View

/-! ## §5 — the view follows the table -/

namespace Table

variable {t t' : Table} {c d : ConnectionId} {topic key : String} {diff : Diff}

theorem shows_snapshotWithout (t : Table) (c : ConnectionId) (topic : String) :
    View.Shows (View.membersOf (t.snapshotWithout c topic))
      fun key => (t.entriesAt topic key).filter (·.connection ≠ c) :=
  ⟨sorted_snapshotWithout t c topic, lookup_snapshotWithout t c topic⟩

/-- A view that shows the entries of the others is the state without the connection. -/
theorem eq_snapshotWithout {view : List (String × Json)} {entries : String → List Entry}
    (h : View.Shows view entries)
    (same : ∀ key, entries key = (t.entriesAt topic key).filter (·.connection ≠ c)) :
    .obj view = t.snapshotWithout c topic :=
  congrArg Json.obj ((h.congr same).ext (shows_snapshotWithout t c topic))

/-- Among listed entries the reference of one tells it from the others as its connection does. -/
theorem filter_reference_eq {bound : Nat} {entries : List Entry} (h : Listed bound entries)
    {gone : Entry} (mem : gone ∈ entries) :
    entries.filter (·.reference ≠ gone.reference) =
      entries.filter (·.connection ≠ gone.connection) := by
  apply List.filter_congr
  intro e he
  have byReference : e.reference = gone.reference ↔ e = gone :=
    ⟨fun same => List.inj_on_of_nodup_map h.references he mem same, fun same => same ▸ rfl⟩
  have byConnection : e.connection = gone.connection ↔ e = gone :=
    ⟨fun same => List.inj_on_of_nodup_map h.connections he mem same, fun same => same ▸ rfl⟩
  simp [byReference, byConnection]

/-- Dropping the reference of another connection's entry from a view of the others is taking the
entry of that connection away. -/
theorem filter_gone (wf : t.WellFormed) {gone : Entry}
    (found : entryOf? (t.entriesAt topic key) d = some gone) (other : d ≠ c) :
    ((t.entriesAt topic key).filter (·.connection ≠ c)).filter (·.reference ≠ gone.reference) =
      (withoutEntryOf (t.entriesAt topic key) d).filter (·.connection ≠ c) := by
  obtain ⟨mem, rfl⟩ := entryOf?_eq_some found
  have listed := wf.listed topic key
  have seen : gone ∈ (t.entriesAt topic key).filter (·.connection ≠ c) :=
    List.mem_filter.2 ⟨mem, by simpa using other⟩
  rw [filter_reference_eq (listed.sublist List.filter_sublist) seen, List.filter_comm,
    withoutEntryOf_eq_filter listed.connections]

/-- **A view follows the untracking of another connection.** -/
theorem apply_untrack (wf : t.WellFormed) (other : d ≠ c)
    (h : t.untrack topic key d = some (t', diff)) :
    View.apply (t.snapshotWithout c topic) diff.value = t'.snapshotWithout c topic := by
  obtain ⟨gone, found, rfl, -⟩ := untrack_eq_some h
  apply eq_snapshotWithout ((shows_snapshotWithout t c topic).leave key gone)
  intro k
  rw [entriesAt_untrack h]
  by_cases same : k = key
  · subst same
    rw [if_pos rfl, if_pos ⟨rfl, rfl⟩, filter_gone wf found other]
  · rw [if_neg same, if_neg fun e => same e.2]

/-- **A view follows the tracking of another connection**, whether it was tracked before or not. -/
theorem apply_track (wf : t.WellFormed) (other : d ≠ c) (metadata : List (String × Json)) :
    View.apply (t.snapshotWithout c topic) (t.track topic key d metadata).2.value =
      (t.track topic key d metadata).1.snapshotWithout c topic := by
  have shows := shows_snapshotWithout t c topic
  have seen : [(⟨d, t.nextReference, metadata⟩ : Entry)].filter (·.connection ≠ c) =
      [⟨d, t.nextReference, metadata⟩] := List.filter_cons_of_pos (by simpa using other)
  cases found : entryOf? (t.entriesAt topic key) d with
  | none =>
    rw [show (t.track topic key d metadata).2 =
      ⟨key, none, some ⟨d, t.nextReference, metadata⟩⟩ by rw [track, found]]
    apply eq_snapshotWithout (shows.join key ⟨d, t.nextReference, metadata⟩)
    intro k
    rw [entriesAt_track, withoutEntryOf_of_none found]
    by_cases same : k = key
    · rw [if_pos same, if_pos ⟨rfl, same⟩, List.filter_append, seen]
    · rw [if_neg same, if_neg fun e => same e.2]
  | some gone =>
    rw [show (t.track topic key d metadata).2 =
      ⟨key, some gone, some ⟨d, t.nextReference, metadata⟩⟩ by rw [track, found]]
    refine eq_snapshotWithout
      ((shows.leave key gone).join key ⟨d, t.nextReference, metadata⟩) fun k => ?_
    rw [entriesAt_track]
    by_cases same : k = key
    · subst same
      rw [if_pos rfl, if_pos rfl, if_pos ⟨rfl, rfl⟩, List.filter_append, seen,
        filter_gone wf found other]
    · rw [if_neg same, if_neg same, if_neg fun e => same e.2]

/-- A connection's own tracking does not show in the state without it. -/
theorem snapshotWithout_track_self (wf : t.WellFormed) (key u : String)
    (metadata : List (String × Json)) :
    (t.track u key c metadata).1.snapshotWithout c topic = t.snapshotWithout c topic := by
  apply snapshotWithout_congr
  intro k
  rw [entriesAt_track]
  split
  next same =>
    obtain ⟨rfl, rfl⟩ := same
    rw [List.filter_append, withoutEntryOf_eq_filter (wf.listed _ _).connections,
      List.filter_filter]
    simp
  next => rfl

/-- A connection's own untracking does not show in the state without it. -/
theorem snapshotWithout_untrack_self (wf : t.WellFormed) {u : String}
    (h : t.untrack u key c = some (t', diff)) :
    t'.snapshotWithout c topic = t.snapshotWithout c topic := by
  apply snapshotWithout_congr
  intro k
  rw [entriesAt_untrack h]
  split
  next same =>
    obtain ⟨rfl, rfl⟩ := same
    rw [withoutEntryOf_eq_filter (wf.listed _ _).connections, List.filter_filter]
    simp
  next => rfl

/-- What is tracked on another topic does not show. -/
theorem snapshotWithout_track_of_ne {u : String} (other : topic ≠ u)
    (metadata : List (String × Json)) :
    (t.track u key d metadata).1.snapshotWithout c topic = t.snapshotWithout c topic :=
  snapshotWithout_congr fun k => by rw [entriesAt_track, if_neg fun e => other e.1]

/-- What is untracked on another topic does not show. -/
theorem snapshotWithout_untrack_of_ne {u : String} (other : topic ≠ u)
    (h : t.untrack u key d = some (t', diff)) :
    t'.snapshotWithout c topic = t.snapshotWithout c topic :=
  snapshotWithout_congr fun k => by rw [entriesAt_untrack h, if_neg fun e => other e.1]

end Table

end Gateway.Channel.Presence
