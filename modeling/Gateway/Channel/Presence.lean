import Gateway.Json.Basic
import Gateway.Keyed
import Gateway.Text.Uuid

/-!
# Presence

Who is present on a topic. Under a topic stand keys, and under each key the entries of the connections
that track it, oldest first; several connections may share a key. An entry carries the metadata that
its connection gave and a reference of its own, by which clients tell entries apart.

`track` puts the entry of a connection at the end of its key, in place of an earlier one; `untrack`
takes it away. Both say what changed. A key without entries and a topic without keys do not stay.
-/

namespace Gateway.Channel

/-- A connection; no two connections have the same number. -/
structure ConnectionId where
  number : Nat
deriving DecidableEq, Repr

/-- A connection as clients see it. -/
def ConnectionId.text (c : ConnectionId) : String :=
  Text.uuidText c.number

namespace Presence

/-- What a connection tracks under a key. -/
structure Entry where
  connection : ConnectionId
  /-- The number behind the reference; no two entries share it. -/
  reference : Nat
  metadata : List (String × Json)
deriving Repr, BEq

namespace Entry

/-- The member that holds the reference. -/
def referenceMember : String := "phx_ref"

/-- The reference as clients see it. -/
def referenceText (reference : Nat) : String :=
  String.ofList (Text.uuidDigits reference)

/-- The entry as clients see it: the metadata with the reference. -/
def value (e : Entry) : Json :=
  .obj (Json.insertMember referenceMember (.str (referenceText e.reference)) e.metadata)

end Entry

/-- Entries under one key as clients see them. -/
def entriesValue (entries : List Entry) : Json :=
  .obj [("metas", .arr (entries.map Entry.value))]

/-- What one request changed under a key: an entry that went, then an entry that came. -/
structure Diff where
  key : String
  left : Option Entry := none
  joined : Option Entry := none
deriving Repr, BEq

namespace Diff

/-- Nothing changed. -/
def isEmpty (d : Diff) : Bool :=
  d.left.isNone && d.joined.isNone

/-- One side of a difference as clients see it. -/
def side (key : String) (entry : Option Entry) : Json :=
  .obj (entry.toList.map fun e => (key, entriesValue [e]))

/-- The difference as clients see it. -/
def value (d : Diff) : Json :=
  .obj [("joins", side d.key d.joined), ("leaves", side d.key d.left)]

end Diff

/-- The keys of a topic and the entries under each. -/
abbrev Keys := Keyed String (List Entry)

/-- Who is present on each topic. -/
structure Table where
  topics : Keyed String Keys := .empty
  /-- The number of the next reference. -/
  nextReference : Nat := 1
deriving Repr

namespace Table

/-- The keys of a topic; none when nobody is present on it. -/
def keysOf (t : Table) (topic : String) : Keys :=
  (t.topics.get? topic).getD .empty

/-- The entries under a key of a topic, oldest first. -/
def entriesAt (t : Table) (topic key : String) : List Entry :=
  ((t.keysOf topic).get? key).getD []

/-- Put the entries of a key in place; none leave no key behind. -/
def setEntries (keys : Keys) (key : String) (entries : List Entry) : Keys :=
  if entries.isEmpty then keys.erase key else keys.insert key entries

/-- Put the entries of a key of a topic in place; no keys leave no topic behind. -/
def set (t : Table) (topic key : String) (entries : List Entry) : Table :=
  let keys := setEntries (t.keysOf topic) key entries
  { t with topics := if keys.isEmpty then t.topics.erase topic else t.topics.insert topic keys }

/-- The entry of a connection among those of a key. -/
def entryOf? (entries : List Entry) (c : ConnectionId) : Option Entry :=
  entries.find? (·.connection = c)

/-- The entries without that of a connection. -/
def withoutEntryOf (entries : List Entry) (c : ConnectionId) : List Entry :=
  entries.eraseP (·.connection = c)

/-- **Track a connection under a key**, in place of what it tracked there before. -/
def track (t : Table) (topic key : String) (c : ConnectionId) (metadata : List (String × Json)) :
    Table × Diff :=
  let entries := t.entriesAt topic key
  let entry : Entry := ⟨c, t.nextReference, metadata⟩
  -- The entry goes to the end, also in place of an earlier one.
  let tracked := t.set topic key (withoutEntryOf entries c ++ [entry])
  ({ tracked with nextReference := t.nextReference + 1 }, ⟨key, entryOf? entries c, some entry⟩)

/-- **Untrack a connection under a key**, when it is tracked there. -/
def untrack (t : Table) (topic key : String) (c : ConnectionId) : Option (Table × Diff) :=
  let entries := t.entriesAt topic key
  (entryOf? entries c).map fun gone =>
    (t.set topic key (withoutEntryOf entries c), ⟨key, some gone, none⟩)

/-- The connection is tracked under a key. -/
def isTracked (t : Table) (topic key : String) (c : ConnectionId) : Bool :=
  (entryOf? (t.entriesAt topic key) c).isSome

/-- Who is present on a topic, as clients see it. -/
def snapshot (t : Table) (topic : String) : Json :=
  Json.object ((t.keysOf topic).entries.map fun (key, entries) => (key, entriesValue entries))

/-- The number of topics on which somebody is present. -/
def topicCount (t : Table) : Nat :=
  t.topics.size

end Table

end Presence

end Gateway.Channel
