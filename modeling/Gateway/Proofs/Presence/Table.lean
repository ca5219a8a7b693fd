import Gateway.Channel.Presence
import Mathlib.Data.List.Nodup

/-!
# The table of presence

`entriesAt` is the whole view of a table: which entries stand under a key of a topic, oldest first. One
equation for each operation says what it does to that view (`entriesAt_set`, `entriesAt_track`,
`entriesAt_untrack`), and `WellFormed` collects what holds of every table that tracking and untracking
can build: under a key no connection and no reference occurs twice, references are below the next one,
and nothing empty stays behind.
-/

namespace Gateway.Channel.Presence

/-! ## §1 — entries under one key -/

/-- Entries that may stand under one key, with references below `bound`. -/
structure Listed (bound : Nat) (entries : List Entry) : Prop where
  connections : (entries.map (·.connection)).Nodup
  references : (entries.map (·.reference)).Nodup
  below : ∀ e ∈ entries, e.reference < bound

namespace Listed

variable {bound : Nat} {entries : List Entry}

theorem nil (bound : Nat) : Listed bound [] := ⟨List.nodup_nil, List.nodup_nil, by simp⟩

theorem mono (h : Listed bound entries) {more : Nat} (le : bound ≤ more) : Listed more entries :=
  ⟨h.connections, h.references, fun e he => Nat.lt_of_lt_of_le (h.below e he) le⟩

theorem sublist (h : Listed bound entries) {fewer : List Entry} (sub : fewer.Sublist entries) :
    Listed bound fewer :=
  ⟨h.connections.sublist (sub.map _), h.references.sublist (sub.map _),
    fun e he => h.below e (sub.subset he)⟩

/-- An entry of another connection with the next reference may go to the end. -/
theorem concat (h : Listed bound entries) {c : ConnectionId} (metadata : List (String × Json))
    (absent : ∀ e ∈ entries, e.connection ≠ c) :
    Listed (bound + 1) (entries ++ [⟨c, bound, metadata⟩]) where
  connections := by
    simp only [List.map_append, List.map_cons, List.map_nil]
    refine h.connections.append (List.nodup_singleton _) ?_
    intro d hd hc
    obtain ⟨e, he, rfl⟩ := List.mem_map.1 hd
    exact absent e he (List.mem_singleton.1 hc)
  references := by
    simp only [List.map_append, List.map_cons, List.map_nil]
    refine h.references.append (List.nodup_singleton _) ?_
    intro r hr hb
    obtain ⟨e, he, rfl⟩ := List.mem_map.1 hr
    exact Nat.lt_irrefl _ (List.mem_singleton.1 hb ▸ h.below e he)
  below := by
    intro e he
    rcases List.mem_append.1 he with he | he
    · exact Nat.lt_succ_of_lt (h.below e he)
    · rw [List.mem_singleton.1 he]
      exact Nat.lt_succ_self bound

end Listed

namespace Table

/-- Where a connection has at most one entry, taking it away leaves the entries of the others. -/
theorem withoutEntryOf_eq_filter {entries : List Entry} {c : ConnectionId}
    (nodup : (entries.map (·.connection)).Nodup) :
    withoutEntryOf entries c = entries.filter (·.connection ≠ c) := by
  induction entries with
  | nil => rfl
  | cons e rest ih =>
    rw [List.map_cons, List.nodup_cons] at nodup
    by_cases h : e.connection = c
    · have others : rest.filter (·.connection ≠ c) = rest := by
        rw [List.filter_eq_self]
        intro d hd
        have differs : d.connection ≠ c := fun same =>
          nodup.1 (List.mem_map.2 ⟨d, hd, same.trans h.symm⟩)
        simpa using differs
      rw [withoutEntryOf, List.eraseP_cons_of_pos (by simpa using h),
        List.filter_cons_of_neg (by simpa using h), others]
    · rw [withoutEntryOf, List.eraseP_cons_of_neg (by simpa using h),
        List.filter_cons_of_pos (by simpa using h)]
      exact congrArg (e :: ·) (ih nodup.2)

/-- A connection without an entry has nothing to take away. -/
theorem withoutEntryOf_of_none {entries : List Entry} {c : ConnectionId}
    (none : entryOf? entries c = none) : withoutEntryOf entries c = entries := by
  apply List.eraseP_of_forall_not
  intro e he
  simpa using List.find?_eq_none.1 none e he

theorem entryOf?_eq_some {entries : List Entry} {c : ConnectionId} {e : Entry}
    (h : entryOf? entries c = some e) : e ∈ entries ∧ e.connection = c :=
  ⟨List.mem_of_find?_eq_some h, by simpa using List.find?_some h⟩

/-! ## §2 — what each operation does to the view -/

/-- A key of `setEntries` has the entries that were put there, and every other key those it had. -/
theorem get?_setEntries (keys : Keys) (key k : String) (entries : List Entry) :
    (setEntries keys key entries).get? k =
      if k = key then (if entries.isEmpty then none else some entries) else keys.get? k := by
  unfold setEntries
  split
  · rw [Keyed.get?_erase]
  · rw [Keyed.get?_insert]

/-- Without entries a keyed list is the empty one. -/
theorem keys_eq_empty {keys : Keys} (h : keys.isEmpty = true) : keys = .empty := by
  obtain ⟨entries, nodup⟩ := keys
  obtain rfl : entries = [] := List.isEmpty_iff.1 h
  rfl

theorem keysOf_set (t : Table) (topic key : String) (entries : List Entry) (u : String) :
    (t.set topic key entries).keysOf u =
      if u = topic then setEntries (t.keysOf topic) key entries else t.keysOf u := by
  unfold set keysOf
  simp only
  split
  next gone =>
    rw [Keyed.get?_erase]
    split
    · exact (keys_eq_empty gone).symm
    · rfl
  next =>
    rw [Keyed.get?_insert]
    split <;> rfl

/-- **Putting entries under a key of a topic** changes what stands there and nothing else. -/
theorem entriesAt_set (t : Table) (topic key : String) (entries : List Entry) (u k : String) :
    (t.set topic key entries).entriesAt u k =
      if u = topic ∧ k = key then entries else t.entriesAt u k := by
  unfold entriesAt
  rw [keysOf_set]
  by_cases sameTopic : u = topic
  · subst sameTopic
    rw [if_pos rfl, get?_setEntries]
    by_cases sameKey : k = key
    · cases entries <;> simp [sameKey]
    · simp [sameKey]
  · simp [sameTopic]

@[simp] theorem nextReference_set (t : Table) (topic key : String) (entries : List Entry) :
    (t.set topic key entries).nextReference = t.nextReference := rfl

/-- **Tracking** takes the entry of the connection away and puts a new one at the end. -/
theorem entriesAt_track (t : Table) (topic key : String) (c : ConnectionId)
    (metadata : List (String × Json)) (u k : String) :
    (t.track topic key c metadata).1.entriesAt u k =
      if u = topic ∧ k = key then
        withoutEntryOf (t.entriesAt topic key) c ++ [⟨c, t.nextReference, metadata⟩]
      else t.entriesAt u k :=
  entriesAt_set t topic key _ u k

/-- **Untracking** takes the entry of the connection away. -/
theorem entriesAt_untrack {t t' : Table} {topic key : String} {c : ConnectionId} {d : Diff}
    (h : t.untrack topic key c = some (t', d)) (u k : String) :
    t'.entriesAt u k =
      if u = topic ∧ k = key then withoutEntryOf (t.entriesAt topic key) c
      else t.entriesAt u k := by
  obtain ⟨gone, -, same⟩ := Option.map_eq_some_iff.1 h
  obtain ⟨rfl, -⟩ := Prod.mk.inj same
  exact entriesAt_set t topic key _ u k

/-- What untracking reports: the entry that went. -/
theorem untrack_eq_some {t t' : Table} {topic key : String} {c : ConnectionId} {d : Diff}
    (h : t.untrack topic key c = some (t', d)) :
    ∃ gone, entryOf? (t.entriesAt topic key) c = some gone ∧ d = ⟨key, some gone, none⟩ ∧
      t' = t.set topic key (withoutEntryOf (t.entriesAt topic key) c) := by
  obtain ⟨gone, found, same⟩ := Option.map_eq_some_iff.1 h
  obtain ⟨rfl, rfl⟩ := Prod.mk.inj same
  exact ⟨gone, found, rfl, rfl⟩

/-- Nothing is untracked exactly when the connection has no entry there. -/
theorem untrack_eq_none_iff {t : Table} {topic key : String} {c : ConnectionId} :
    t.untrack topic key c = none ↔ entryOf? (t.entriesAt topic key) c = none :=
  Option.map_eq_none_iff

/-! ## §3 — well-formed tables -/

/-- What holds of every table that tracking and untracking build. -/
structure WellFormed (t : Table) : Prop where
  listed : ∀ topic key, Listed t.nextReference (t.entriesAt topic key)
  /-- No key stays without entries. -/
  keys : ∀ topic key, (t.keysOf topic).get? key ≠ some []
  /-- No topic stays without keys. -/
  topics : ∀ topic keys, t.topics.get? topic = some keys → keys.isEmpty = false

theorem wellFormed_empty : WellFormed {} where
  listed _ _ := Listed.nil _
  keys _ _ := by simp [keysOf]
  topics _ _ h := by simp at h

/-- Entries that may stand under one key may be put there. -/
theorem WellFormed.set {t : Table} (wf : t.WellFormed) (topic key : String) {entries : List Entry}
    (h : Listed t.nextReference entries) : (t.set topic key entries).WellFormed where
  listed u k := by
    rw [entriesAt_set, nextReference_set]
    split
    · exact h
    · exact wf.listed u k
  keys u k := by
    rw [keysOf_set]
    split
    · rw [get?_setEntries]
      split
      · cases entries <;> simp
      · exact wf.keys topic k
    · exact wf.keys u k
  topics u keys found := by
    unfold Table.set at found
    simp only at found
    split at found
    · rw [Keyed.get?_erase] at found
      split at found
      · simp at found
      · exact wf.topics u keys found
    next filled =>
      rw [Keyed.get?_insert] at found
      split at found
      · obtain rfl := Option.some.inj found
        simpa using filled
      · exact wf.topics u keys found

/-- A larger next reference does no harm. -/
theorem WellFormed.renumber {t : Table} (wf : t.WellFormed) {next : Nat}
    (le : t.nextReference ≤ next) : ({ t with nextReference := next } : Table).WellFormed where
  listed u k := (wf.listed u k).mono le
  keys := wf.keys
  topics := wf.topics

/-- **Tracking keeps tables well-formed.** -/
theorem WellFormed.track {t : Table} (wf : t.WellFormed) (topic key : String) (c : ConnectionId)
    (metadata : List (String × Json)) : (t.track topic key c metadata).1.WellFormed := by
  have old := wf.listed topic key
  have others : ∀ e ∈ withoutEntryOf (t.entriesAt topic key) c, e.connection ≠ c := by
    rw [withoutEntryOf_eq_filter old.connections]
    intro e he
    simpa using (List.mem_filter.1 he).2
  -- The new entry is numbered before the number moves on.
  have entries := (old.sublist List.eraseP_sublist).concat metadata others
  exact (wf.renumber (Nat.le_succ _)).set topic key entries

/-- **Untracking keeps tables well-formed.** -/
theorem WellFormed.untrack {t t' : Table} (wf : t.WellFormed) {topic key : String}
    {c : ConnectionId} {d : Diff} (h : t.untrack topic key c = some (t', d)) : t'.WellFormed := by
  obtain ⟨gone, -, -, rfl⟩ := untrack_eq_some h
  exact wf.set topic key ((wf.listed topic key).sublist List.eraseP_sublist)

end Table

end Gateway.Channel.Presence
