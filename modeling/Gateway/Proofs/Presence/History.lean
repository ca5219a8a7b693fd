import Gateway.Proofs.Presence.View
import Mathlib.Algebra.GroupWithZero.Nat
import Mathlib.Data.Fintype.EquivFin
import Mathlib.Data.List.Induction

/-!
# Presence as a history

A table is built by calls that track and untrack. `standing` says what such a history leaves under a key,
without any table: each track there that no later call of the same connection there follows, oldest first.

`refines_history`: after every history the table holds exactly what stands (`Represents`), for all that can
be asked of it, and a further call reports what it changes (`Reports`): a client that applies the
difference to the state of the topic before comes to the state after.
-/

namespace Gateway.Channel.Presence

/-! ## §1 — what a history leaves -/

/-- A call on a table. -/
inductive Operation where
  | track (topic key : String) (c : ConnectionId) (metadata : List (String × Json))
  | untrack (topic key : String) (c : ConnectionId)

namespace Operation

def topic : Operation → String
  | track topic _ _ _ | untrack topic _ _ => topic

/-- The call is one of a connection for a key of a topic. -/
def touches (topic key : String) (c : ConnectionId) : Operation → Bool
  | track u k d _ | untrack u k d => u = topic ∧ k = key ∧ d = c

/-- How many references the call takes. -/
def taken : Operation → Nat
  | track .. => 1
  | untrack .. => 0

/-- The entry that the call puts under a key of a topic. -/
def placed (topic key : String) (reference : Nat) : Operation → List Entry
  | track u k c metadata => if u = topic ∧ k = key then [⟨c, reference, metadata⟩] else []
  | untrack .. => []

end Operation

/-- The number of references that a history takes. -/
def taken (past : List Operation) : Nat :=
  (past.map Operation.taken).sum

theorem taken_cons (op : Operation) (past : List Operation) : taken (op :: past) = op.taken + taken past :=
  List.sum_cons

theorem taken_concat (past : List Operation) (op : Operation) : taken (past ++ [op]) = taken past + op.taken := by
  rw [taken, List.map_append, List.sum_append]
  rfl

/-- **What a history leaves under a key of a topic**: the entry of each track there that no later call of
its connection there follows, oldest first. The tracks of the history are numbered from `next`. -/
def standing (topic key : String) : Nat → List Operation → List Entry
  | _, [] => []
  | next, op :: later =>
    ((op.placed topic key next).filter fun e => !later.any (·.touches topic key e.connection)) ++
      standing topic key (next + op.taken) later

/-- A connection that tracks anew moves behind the others. -/
example : let c : ConnectionId := ⟨1⟩
    let d : ConnectionId := ⟨2⟩
    (standing "room" "a" 1 [.track "room" "a" c [], .track "room" "a" d [], .untrack "room" "b" d,
      .track "room" "a" c []]).map (fun e => (e.connection, e.reference)) = [(d, 2), (c, 3)] := by
  decide

variable {topic key : String} {c : ConnectionId}

/-- **A further call** takes the entry of its connection away, and puts its own at the end. -/
theorem standing_concat (topic key : String) (next : Nat) (past : List Operation) (op : Operation) :
    standing topic key next (past ++ [op]) =
      ((standing topic key next past).filter fun e => !op.touches topic key e.connection) ++
        op.placed topic key (next + taken past) := by
  induction past generalizing next with
  | nil =>
    show ((op.placed topic key next).filter fun _ => true) ++ [] = _
    rw [List.filter_true, List.append_nil]
    rfl
  | cons first later ih =>
    rw [List.cons_append, standing, ih, standing, List.filter_append, List.filter_filter,
      List.append_assoc, taken_cons, Nat.add_assoc]
    refine congrArg (· ++ _) (List.filter_congr fun e _ => ?_)
    rw [List.any_append, List.any_cons, List.any_nil, Bool.or_false, Bool.not_or, Bool.and_comm]

theorem mem_placed_iff {reference : Nat} {op : Operation} {e : Entry} :
    e ∈ op.placed topic key reference ↔
      op = .track topic key e.connection e.metadata ∧ e.reference = reference := by
  cases op with
  | track u k d metadata =>
    rw [Operation.placed]
    by_cases here : u = topic ∧ k = key
    · obtain ⟨rfl, rfl⟩ := here
      rw [if_pos ⟨rfl, rfl⟩, List.mem_singleton]
      constructor
      · rintro rfl
        exact ⟨rfl, rfl⟩
      · rintro ⟨same, rfl⟩
        obtain ⟨-, -, rfl, rfl⟩ := Operation.track.inj same
        rfl
    · rw [if_neg here]
      refine iff_of_false List.not_mem_nil fun same => here ?_
      obtain ⟨rfl, rfl, -, -⟩ := Operation.track.inj same.1
      exact ⟨rfl, rfl⟩
  | untrack => exact iff_of_false List.not_mem_nil nofun

/-- **What stands was tracked and not touched since.** -/
theorem mem_standing_iff {next : Nat} {past : List Operation} {e : Entry} :
    e ∈ standing topic key next past ↔ ∃ earlier later,
      past = earlier ++ .track topic key e.connection e.metadata :: later ∧
        e.reference = next + taken earlier ∧
        ∀ op ∈ later, op.touches topic key e.connection = false := by
  induction past generalizing next with
  | nil => simp [standing]
  | cons first rest ih =>
    rw [standing, List.mem_append, List.mem_filter, mem_placed_iff, ih]
    constructor
    · rintro (⟨⟨rfl, number⟩, untouched⟩ | ⟨earlier, later, rfl, number, untouched⟩)
      · exact ⟨[], rest, rfl, number, by simpa using untouched⟩
      · refine ⟨first :: earlier, later, rfl, ?_, untouched⟩
        rw [number, taken_cons, Nat.add_assoc]
    · rintro ⟨earlier, later, split, number, untouched⟩
      cases earlier with
      | nil =>
        obtain ⟨rfl, rfl⟩ := List.cons.inj split
        exact .inl ⟨⟨rfl, number⟩, by simpa using untouched⟩
      | cons op earlier =>
        obtain ⟨rfl, rfl⟩ := List.cons.inj split
        refine .inr ⟨earlier, later, rfl, ?_, untouched⟩
        rw [number, taken_cons, Nat.add_assoc]

/-! ## §2 — runs -/

namespace Table

/-- One call, with what it reports. -/
def step (t : Table) : Operation → Table × Option Diff
  | .track topic key c metadata =>
    ((t.track topic key c metadata).1, some (t.track topic key c metadata).2)
  | .untrack topic key c => (t.untrack topic key c).elim (t, none) fun (t', d) => (t', some d)

/-- The table after a history. -/
def run (t : Table) (past : List Operation) : Table :=
  past.foldl (fun t op => (t.step op).1) t

theorem run_concat (t : Table) (past : List Operation) (op : Operation) :
    t.run (past ++ [op]) = ((t.run past).step op).1 :=
  List.foldl_concat ..

variable {t t' : Table} {d : Diff}

/-- A call on a table is a track, an untrack of what is tracked, or changes nothing. -/
theorem step_untrack (t : Table) (topic key : String) (c : ConnectionId) :
    (∃ t' d, t.untrack topic key c = some (t', d) ∧ t.step (.untrack topic key c) = (t', some d)) ∨
      (entryOf? (t.entriesAt topic key) c = none ∧ t.step (.untrack topic key c) = (t, none)) := by
  cases gone : t.untrack topic key c with
  | some change =>
    refine .inl ⟨_, _, rfl, ?_⟩
    rw [step, gone]
    rfl
  | none =>
    refine .inr ⟨untrack_eq_none_iff.1 gone, ?_⟩
    rw [step, gone]
    rfl

theorem WellFormed.step (wf : t.WellFormed) (op : Operation) : (t.step op).1.WellFormed := by
  cases op with
  | track topic key c metadata => exact wf.track topic key c metadata
  | untrack topic key c =>
    obtain ⟨t', d, gone, done⟩ | ⟨-, done⟩ := t.step_untrack topic key c
    · exact done ▸ wf.untrack gone
    · exact done ▸ wf

theorem nextReference_step (t : Table) (op : Operation) :
    (t.step op).1.nextReference = t.nextReference + op.taken := by
  cases op with
  | track => rfl
  | untrack topic key c =>
    obtain ⟨t', d, gone, done⟩ | ⟨-, done⟩ := t.step_untrack topic key c
    · obtain ⟨-, -, -, rfl⟩ := untrack_eq_some gone
      rw [done]
      rfl
    · rw [done]
      rfl

/-- What a call leaves alone under a key of which it is none. -/
theorem filter_touches_of_ne {op : Operation} (entries : List Entry)
    (other : ∀ c, op.touches topic key c = false) :
    (entries.filter fun e => !op.touches topic key e.connection) = entries :=
  List.filter_eq_self.2 fun e _ => by rw [other]; rfl

/-- **One call does to a table what it does to a history.** -/
theorem entriesAt_step (wf : t.WellFormed) (op : Operation) (topic key : String) :
    (t.step op).1.entriesAt topic key =
      ((t.entriesAt topic key).filter fun e => !op.touches topic key e.connection) ++
        op.placed topic key t.nextReference := by
  have nodup := (wf.listed topic key).connections
  cases op with
  | track u k c metadata =>
    show (t.track u k c metadata).1.entriesAt topic key = _
    rw [entriesAt_track]
    by_cases here : topic = u ∧ key = k
    · obtain ⟨rfl, rfl⟩ := here
      rw [if_pos ⟨rfl, rfl⟩, withoutEntryOf_eq_filter nodup, Operation.placed, if_pos ⟨rfl, rfl⟩]
      refine congrArg (· ++ _) (List.filter_congr fun e _ => ?_)
      simp [Operation.touches, eq_comm]
    · have away : ¬ (u = topic ∧ k = key) := fun same => here ⟨same.1.symm, same.2.symm⟩
      rw [if_neg here, Operation.placed, if_neg away, List.append_nil, filter_touches_of_ne]
      exact fun c => decide_eq_false fun same => away ⟨same.1, same.2.1⟩
  | untrack u k c =>
    rw [Operation.placed, List.append_nil]
    obtain ⟨t', d, gone, done⟩ | ⟨absent, done⟩ := t.step_untrack u k c
    · rw [done, entriesAt_untrack gone]
      by_cases here : topic = u ∧ key = k
      · obtain ⟨rfl, rfl⟩ := here
        rw [if_pos ⟨rfl, rfl⟩, withoutEntryOf_eq_filter nodup]
        refine List.filter_congr fun e _ => ?_
        simp [Operation.touches, eq_comm]
      · rw [if_neg here, filter_touches_of_ne]
        exact fun c => decide_eq_false fun same => here ⟨same.1.symm, same.2.1.symm⟩
    · rw [done, List.filter_eq_self.2]
      intro e he
      have other : ¬ (u = topic ∧ k = key ∧ c = e.connection) := by
        rintro ⟨rfl, rfl, rfl⟩
        simpa using List.find?_eq_none.1 absent e he
      simp [Operation.touches, other]

/-- **After every history the table is well-formed and holds what stands.** -/
theorem holds_run (past : List Operation) :
    (run {} past).WellFormed ∧ (run {} past).nextReference = 1 + taken past ∧
      ∀ topic key, (run {} past).entriesAt topic key = standing topic key 1 past := by
  induction past using List.reverseRecOn with
  | nil => exact ⟨wellFormed_empty, rfl, fun _ _ => rfl⟩
  | append_singleton past op ih =>
    obtain ⟨wf, number, same⟩ := ih
    rw [run_concat]
    refine ⟨wf.step op, ?_, fun topic key => ?_⟩
    · rw [nextReference_step, number, taken_concat, Nat.add_assoc]
    · rw [entriesAt_step wf, standing_concat, same, number]

/-! ## §3 — what can be asked of a table -/

/-- There are no entries under a key that is not kept, and some under one that is. -/
theorem WellFormed.get?_keysOf (wf : t.WellFormed) (topic key : String) :
    (t.keysOf topic).get? key =
      if (t.entriesAt topic key).isEmpty then none else some (t.entriesAt topic key) := by
  unfold entriesAt
  cases found : (t.keysOf topic).get? key with
  | none => rfl
  | some entries =>
    have some : entries ≠ [] := fun none => wf.keys topic key (none ▸ found)
    rw [Option.getD_some, if_neg (by simpa using some)]

/-- A topic is kept when somebody is present on it. -/
theorem WellFormed.mem_topics_iff (wf : t.WellFormed) {topic : String} :
    topic ∈ t.topics.keys ↔ ∃ key, t.entriesAt topic key ≠ [] := by
  rw [← Keyed.contains_iff, Keyed.contains]
  constructor
  · intro kept
    obtain ⟨keys, found⟩ := Option.isSome_iff_exists.1 kept
    obtain ⟨⟨key, entries⟩, rest, filled⟩ := List.exists_cons_of_ne_nil
      (List.isEmpty_eq_false_iff.1 (wf.topics topic keys found))
    have here : (t.keysOf topic).get? key = some entries := by
      rw [keysOf, found, Option.getD_some, ← Keyed.mem_entries_iff, filled]
      exact List.mem_cons_self
    refine ⟨key, fun none => wf.keys topic key ?_⟩
    rw [here]
    rw [entriesAt, here] at none
    exact congrArg some none
  · rintro ⟨key, some⟩
    rw [Option.isSome_iff_ne_none]
    intro none
    refine some ?_
    rw [entriesAt, keysOf, none]
    rfl

theorem isTracked_iff :
    t.isTracked topic key c = true ↔ ∃ e ∈ t.entriesAt topic key, e.connection = c := by
  rw [isTracked, entryOf?, List.find?_isSome]
  simp

/-- **The members of a state**: under each key its entries, when there are any. -/
theorem shows_snapshot (wf : t.WellFormed) (topic : String) :
    View.Shows (View.membersOf (t.snapshot topic)) (t.entriesAt topic) where
  sorted := Json.sorted_sortMembers _
  lookup key := by
    have nodup : (((t.keysOf topic).entries.map fun p => (p.1, entriesValue p.2)).map (·.1)).Nodup := by
      simpa [Function.comp_def] using (t.keysOf topic).nodup
    have look := Json.lookup_sortMembers nodup key
    rw [lookup_map_value] at look
    refine look.trans ?_
    show ((t.keysOf topic).get? key).map entriesValue = _
    rw [wf.get?_keysOf, shown]
    split <;> rfl

/-! ## §4 — what a call reports -/

/-- Some other connection is present nowhere on a topic. -/
theorem exists_bystander (t : Table) (topic : String) (c : ConnectionId) :
    ∃ d, c ≠ d ∧ ∀ key, ∀ e ∈ t.entriesAt topic key, e.connection ≠ d := by
  let present := (t.keysOf topic).entries.flatMap (·.2)
  obtain ⟨n, fresh⟩ := Infinite.exists_notMem_finset
    (c.number :: present.map (·.connection.number)).toFinset
  rw [List.mem_toFinset, List.mem_cons, not_or] at fresh
  refine ⟨⟨n⟩, fun same => fresh.1 (congrArg ConnectionId.number same).symm, ?_⟩
  intro key e mem same
  refine fresh.2 (List.mem_map.2 ⟨e, ?_, congrArg ConnectionId.number same⟩)
  rw [entriesAt] at mem
  cases found : (t.keysOf topic).get? key with
  | none => simp [found] at mem
  | some entries =>
    rw [found] at mem
    exact List.mem_flatMap.2 ⟨(key, entries), Keyed.mem_entries_iff.2 found, mem⟩

/-- Who is present nowhere on a topic stays so when a call puts no entry of its own there. -/
theorem absent_step (wf : t.WellFormed) (op : Operation) {topic : String} {other : ConnectionId}
    (absent : ∀ key, ∀ e ∈ t.entriesAt topic key, e.connection ≠ other)
    (placed : ∀ key reference, ∀ e ∈ op.placed topic key reference, e.connection ≠ other) :
    ∀ key, ∀ e ∈ (t.step op).1.entriesAt topic key, e.connection ≠ other := by
  intro key e mem
  rw [entriesAt_step wf] at mem
  rcases List.mem_append.1 mem with kept | new
  · exact absent key e (List.mem_of_mem_filter kept)
  · exact placed key t.nextReference e new

/-- **The difference that a call reports leads from the state before to the state after.** A bystander is
shown all of both, and its view follows the table. -/
theorem apply_step (wf : t.WellFormed) {op : Operation} {d : Diff} (reported : (t.step op).2 = some d) :
    View.apply (t.snapshot op.topic) d.value = (t.step op).1.snapshot op.topic := by
  cases op with
  | track topic key c metadata =>
    obtain rfl := Option.some.inj reported
    obtain ⟨other, differs, absent⟩ := t.exists_bystander topic c
    have after : ∀ k, ∀ e ∈ (t.track topic key c metadata).1.entriesAt topic k, e.connection ≠ other := by
      refine absent_step wf (.track topic key c metadata) absent fun k reference e new => ?_
      obtain ⟨same, -⟩ := mem_placed_iff.1 new
      obtain ⟨-, -, rfl, -⟩ := Operation.track.inj same
      exact differs
    have follows : View.apply (t.snapshotWithout other topic) (t.track topic key c metadata).2.value =
        (t.track topic key c metadata).1.snapshotWithout other topic := apply_track wf differs metadata
    rwa [snapshotWithout_eq_snapshot wf absent,
      snapshotWithout_eq_snapshot (wf.track topic key c metadata) after] at follows
  | untrack topic key c =>
    obtain ⟨t', d', gone, done⟩ | ⟨-, done⟩ := t.step_untrack topic key c
    · obtain ⟨other, differs, absent⟩ := t.exists_bystander topic c
      have after := absent_step wf (.untrack topic key c) absent nofun
      rw [done] at reported after ⊢
      obtain rfl := Option.some.inj reported
      have follows := apply_untrack wf differs gone
      rwa [snapshotWithout_eq_snapshot wf absent,
        snapshotWithout_eq_snapshot (wf.untrack gone) after] at follows
    · rw [done] at reported
      cases reported

/-- A call leaves the other topics alone. -/
theorem keysOf_step {op : Operation} {topic : String} (other : topic ≠ op.topic) :
    (t.step op).1.keysOf topic = t.keysOf topic := by
  cases op with
  | track u key c metadata => exact (keysOf_set t u key _ topic).trans (if_neg other)
  | untrack u key c =>
    obtain ⟨t', d, gone, done⟩ | ⟨-, done⟩ := t.step_untrack u key c
    · obtain ⟨-, -, -, rfl⟩ := untrack_eq_some gone
      rw [done]
      exact (keysOf_set t u key _ topic).trans (if_neg other)
    · rw [done]

/-! ## §5 — the table refines the history -/

/-- A connection tracks a key: it tracked it and has not untracked it since. -/
def TrackedAfter (past : List Operation) (topic key : String) (c : ConnectionId) : Prop :=
  ∃ earlier metadata later, past = earlier ++ .track topic key c metadata :: later ∧
    ∀ op ∈ later, op.touches topic key c = false

/-- **The table is what a history leaves**, in all that can be asked of it. -/
structure Represents (t : Table) (past : List Operation) : Prop where
  /-- Under each key stands what the history leaves there; a key without entries is not kept. -/
  keys : ∀ topic key, (t.keysOf topic).get? key =
    if (standing topic key 1 past).isEmpty then none else some (standing topic key 1 past)
  /-- No connection stands twice under a key. -/
  once : ∀ topic key, ((standing topic key 1 past).map (·.connection)).Nodup
  isTracked : ∀ topic key c, t.isTracked topic key c = true ↔ TrackedAfter past topic key c
  snapshot : ∀ topic, ∃ members, t.snapshot topic = .obj members ∧
    View.Shows members fun key => standing topic key 1 past
  /-- What is shown of an entry is its metadata with the reference in place of its own. -/
  shown : ∀ topic key, ∀ e ∈ standing topic key 1 past, ∀ name, e.value.member? name =
    if name = "phx_ref" then some (.str (Entry.referenceText e.reference)) else e.metadata.lookup name
  /-- The topics that are kept, each once, are those with an entry. -/
  topics : t.topics.keys.Nodup ∧
    ∀ topic, topic ∈ t.topics.keys ↔ ∃ key, standing topic key 1 past ≠ []
  topicCount : t.topicCount = t.topics.keys.length

/-- **A call reports what it changes.** -/
structure Reports (t : Table) (op : Operation) : Prop where
  /-- Nothing is reported exactly when what is not tracked is untracked. -/
  silent_iff : (t.step op).2 = none ↔
    ∃ topic key c, op = .untrack topic key c ∧ t.isTracked topic key c = false
  unchanged : (t.step op).2 = none → (t.step op).1 = t
  applied : ∀ d, (t.step op).2 = some d →
    View.apply (t.snapshot op.topic) d.value = (t.step op).1.snapshot op.topic
  elsewhere : ∀ topic, topic ≠ op.topic → (t.step op).1.keysOf topic = t.keysOf topic ∧
    (t.step op).1.snapshot topic = t.snapshot topic

theorem represents_run (past : List Operation) : (run {} past).Represents past := by
  obtain ⟨wf, -, same⟩ := holds_run past
  refine ⟨fun topic key => ?_, fun topic key => ?_, fun topic key c => ?_, fun topic => ?_,
    fun topic key e _ name => Json.lookup_insertMember ..,
    ⟨(run {} past).topics.nodup, fun topic => wf.mem_topics_iff.trans (exists_congr fun key => ?_)⟩,
    (List.length_map ..).symm⟩
  · rw [wf.get?_keysOf, same]
  · exact same topic key ▸ (wf.listed topic key).connections
  · rw [isTracked_iff, same]
    constructor
    · rintro ⟨e, stands, rfl⟩
      obtain ⟨earlier, later, split, -, untouched⟩ := mem_standing_iff.1 stands
      exact ⟨earlier, e.metadata, later, split, untouched⟩
    · rintro ⟨earlier, metadata, later, split, untouched⟩
      exact ⟨⟨c, 1 + taken earlier, metadata⟩,
        mem_standing_iff.2 ⟨earlier, later, split, rfl, untouched⟩, rfl⟩
  · exact ⟨_, rfl, (shows_snapshot wf topic).congr fun key => same topic key⟩
  · rw [same]

theorem reports_of_wellFormed (wf : t.WellFormed) (op : Operation) : t.Reports op where
  silent_iff := by
    cases op with
    | track => exact iff_of_false nofun fun ⟨_, _, _, same, _⟩ => nomatch same
    | untrack topic key c =>
      have tracked : t.isTracked topic key c = false ↔ entryOf? (t.entriesAt topic key) c = none := by
        rw [isTracked, Option.isSome_eq_false_iff, Option.isNone_iff_eq_none]
      constructor
      · intro silent
        obtain ⟨t', d, -, done⟩ | ⟨absent, -⟩ := t.step_untrack topic key c
        · rw [done] at silent
          cases silent
        · exact ⟨topic, key, c, rfl, tracked.2 absent⟩
      · rintro ⟨_, _, _, same, away⟩
        obtain ⟨rfl, rfl, rfl⟩ := Operation.untrack.inj same
        rw [step, untrack_eq_none_iff.2 (tracked.1 away)]
        rfl
  unchanged silent := by
    cases op with
    | track => cases silent
    | untrack topic key c =>
      obtain ⟨t', d, -, done⟩ | ⟨-, done⟩ := t.step_untrack topic key c
      · rw [done] at silent
        cases silent
      · rw [done]
  applied _ reported := apply_step wf reported
  elsewhere topic other := by
    refine ⟨keysOf_step other, ?_⟩
    rw [snapshot, keysOf_step other]
    rfl

/-- **The table of presence refines an ordered multimap.** After every history of calls it holds, under
each key of each topic, the entries of the connections that track it, oldest first, and a further call
reports a difference that leads from the state of its topic before to the state after. -/
theorem refines_history (past : List Operation) :
    (run {} past).Represents past ∧ ∀ op, (run {} past).Reports op :=
  ⟨represents_run past, reports_of_wellFormed (holds_run past).1⟩

end Table

end Gateway.Channel.Presence
