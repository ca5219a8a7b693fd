import Gateway.Proofs.Channel.Payload

/-!
# What a client decodes is what the server means

A frame is read back from its text, with any topic, event and reference, as long as its payload is
canonical and `Legible`: binary numbers inside it read back, and nothing in it nests deeper than the reader
goes (`Frame.read_text`). What the server offers is canonical, and a frame that tells of a change holds
that change (`Frame.tells_change`). `read_text_run` puts the two together for a notification of the
database: what a client decodes from the frame that it receives is the change that was announced.
-/

namespace Gateway.Channel

open Gateway.Feed (Event Operation)
open Gateway.Json.Record (Carried)

/-! ## §1 — reading a frame back -/

namespace Frame

variable {f : Frame}

/-- **The reader of JSON can take in the frame**, if its payload is canonical. -/
structure Legible (f : Frame) : Prop where
  /-- The binary numbers in the payload read back; there need not be any. -/
  numbers : f.payload.Everywhere Json.Legible
  /-- The frame itself takes up one level of nesting. -/
  nesting : f.payload.depth ≤ Json.maxDepth - 1

/-- A text stands for itself as a reference, and `null` for none. -/
theorem reference?_ofOption (reference : Option String) :
    (some (Json.ofOption reference)).bind reference? = reference := by
  cases reference <;> rfl

/-- Every member of a frame is carried by its text. -/
theorem carried_members (canonical : f.payload.Canonical) (legible : f.Legible) :
    ∀ m ∈ f.members, Carried fields m := by
  have text (k : String) (known : (Json.Record.fieldAt? fields k).isSome = true) (s : String) :
      Carried fields (k, .str s) :=
    ⟨known, Json.readsBack trivial trivial, trivial, Nat.zero_le _⟩
  simp only [members, List.forall_mem_cons]
  refine ⟨text "topic" rfl f.topic, text "event" rfl f.event, ?_, ?_, List.forall_mem_nil _⟩
  · exact ⟨rfl, Json.readsBack canonical.fits legible.numbers, canonical.ordered, legible.nesting⟩
  · cases f.reference with
    | none => exact ⟨rfl, Json.readsBack trivial trivial, trivial, Nat.zero_le _⟩
    | some reference => exact text "ref" rfl reference

/-- The fields of a frame are taken from its members. -/
theorem ofValue_members (f : Frame) : Json.Record.ofValue fields (.obj f.members) =
    some [some (.str f.topic), some (.str f.event), some f.payload, some (Json.ofOption f.reference)] :=
  rfl

/-- **A frame is read back from its text.** -/
theorem read_text (canonical : f.payload.Canonical) (legible : f.Legible) : read f.text = .ok f := by
  rw [read, text, Json.Record.ofText_text (carried_members canonical legible), ofValue_members,
    Option.bind_some, ofSlots?, reference?_ofOption]
  rfl

/-! ## §2 — telling of a change -/

/-- **The frame tells of a change**: the change is decoded from its data, where the operation stands in
upper case and a row that is missing as `null`. -/
structure Tells (f : Frame) (e : Event) : Prop where
  decoded : (f.payload.member? "data").bind Event.ofValue? = some e
  operation : (f.payload.member? "data").bind (Json.member? "type") = some (.str e.operation.name)
  record : (f.payload.member? "data").bind (Json.member? "record") = some (e.record.getD .null)
  oldRecord : (f.payload.member? "data").bind (Json.member? "old_record") =
    some (e.oldRecord.getD .null)

theorem tells_change (topic : String) (id : Nat) {e : Event} (settled : e.Settled) :
    (Frame.change topic id e).Tells e :=
  ⟨Event.ofValue?_value settled, rfl, rfl, rfl⟩

end Frame

/-! ## §3 — along a run -/

namespace Server

/-- **What a client decodes is what the server means.** After every run that has given out no more numbers
of change filters than there are of 64 bits:

* a change that is read from a notification, where its operation may be written in any case and a row may
  be `null` or left out, is told by frames that read back, and from which the change is decoded;
* the frames that any action offers read back;
* so does any other frame, whatever its topic, its reference and its payload are.

What is handed to the server besides texts has to be canonical. -/
theorem read_text_run (verifier : Auth.Verifier) (capacity : Nat) (actions : List Action)
    (given : ∀ a ∈ actions, a.Canonical)
    (small : ((start verifier capacity).run actions).hub.nextFilter ≤ 2 ^ 64) :
    let s := (start verifier capacity).run actions
    (∀ notice e, Event.read? notice = some e → e.Settled ∧
      (∀ name, Operation.read? name = some e.operation ↔
        Text.upper name.toList = e.operation.name.toList) ∧
      ∀ c, ∀ f ∈ framesFor c (s.hub.publish e),
        f.Tells e ∧ (f.Legible → Frame.read f.text = .ok f)) ∧
    (∀ a, a.Canonical → (s.step a).hub.nextFilter ≤ 2 ^ 64 →
      ∀ c, ∀ f ∈ framesFor c (s.hub.act a).2, f.Legible → Frame.read f.text = .ok f) ∧
    ∀ f : Frame, f.payload.Canonical → f.Legible → Frame.read f.text = .ok f := by
  intro s
  have canonical : s.hub.Canonical := canonical_run verifier capacity given small
  have numbered : s.hub.Numbered := numbered_run (.fresh verifier) actions
  refine ⟨fun notice e read => ?_, fun a entered below c f offered => ?_, fun f => Frame.read_text⟩
  · obtain ⟨rows, settled⟩ := Event.canonical_of_read? read
    refine ⟨settled, fun name => Operation.read?_eq_some_iff, fun c f offered => ⟨?_, ?_⟩⟩
    · obtain ⟨topic, u, filter, told, -⟩ := Hub.mem_publish (mem_framesFor offered)
      obtain rfl : f = .change topic filter.id e := told
      exact Frame.tells_change topic filter.id settled
    · exact Frame.read_text (Hub.canonical_publish numbered small rows _ (mem_framesFor offered))
  · rw [hub_step] at below
    have step := Hub.canonical_act canonical numbered entered below
    exact Frame.read_text (step.offers _ (mem_framesFor offered))

/-- A change is announced with its operation in lower case and a string to escape, and told in a room. -/
theorem read_text_run_update :
    let joining : Frame := ⟨"room", joinEvent, .obj [("config", .obj [("postgres_changes",
      .arr [.obj [("event", .str "*")]])])], some "1"⟩
    let e : Event := ⟨"public", "orders", .update, some (.obj [("note", .str "a\n\"b\"")]), none⟩
    let notice := (Json.obj (e.membersAs "update")).text
    let s := (start {} 8).run [.connect .anonymous, .frame ⟨1⟩ joining]
    Event.read? notice = some e ∧ ∃ f ∈ framesFor ⟨1⟩ (s.hub.publish e),
      f.Tells e ∧ f.Legible ∧ Frame.read f.text = .ok f := by
  intro joining e notice s
  have settled : e.Settled := by
    rintro (now | before)
    · cases Option.some.inj now
    · cases before
  have row : (Json.obj [("note", .str "a\n\"b\"")]).Canonical :=
    Json.canonical_single (Json.canonical_str _)
  have read : Event.read? notice = some e := by
    refine Event.read?_membersAs settled (by decide) fun value has => ?_
    rcases has with now | before
    · obtain rfl := Option.some.inj now
      exact ⟨row, ⟨trivial, trivial, trivial⟩, by decide⟩
    · cases before
  have filed : (s.hub.subscription? ⟨1⟩ "room").map (·.filters) = some [⟨1, none, none, none, none⟩] := by
    decide +kernel
  obtain ⟨sub, found, filters⟩ := Option.map_eq_some_iff.1 filed
  have watches : s.hub.Watches ⟨1⟩ "room" ⟨1, none, none, none, none⟩ :=
    ⟨sub, found, filters ▸ List.mem_singleton.2 rfl⟩
  obtain ⟨topic, filter, offered, -⟩ := Hub.framesFor_publish_of_wants
    (consistent_run (.fresh {}) _) ⟨"room", _, watches, by constructor <;> simp⟩
  have mem : Frame.change topic filter.id e ∈ framesFor ⟨1⟩ (s.hub.publish e) :=
    offered ▸ List.mem_singleton_self _
  have legible : (Frame.change topic filter.id e).Legible :=
    ⟨by repeat' constructor, show 3 ≤ Json.maxDepth - 1 by decide⟩
  have payload : joining.payload.Canonical := by
    refine Json.canonical_single (Json.canonical_single (Json.canonical_arr_iff.2 ?_))
    simpa using Json.canonical_single (Json.canonical_str "*")
  have given : ∀ a ∈ [Action.connect .anonymous, .frame ⟨1⟩ joining], a.Canonical := by
    simpa [Action.Canonical] using payload
  have small : ((start {} 8).run [.connect .anonymous, .frame ⟨1⟩ joining]).hub.nextFilter ≤ 2 ^ 64 := by
    decide +kernel
  have told := ((read_text_run {} 8 _ given small).1 notice e read).2.2 ⟨1⟩ _ mem
  exact ⟨read, _, mem, told.1, legible, told.2 legible⟩

end Server

end Gateway.Channel
