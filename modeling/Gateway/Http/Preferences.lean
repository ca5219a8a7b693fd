import Gateway.Http.Header
import Gateway.Sql.Insert
import Gateway.Text.Blank

/-!
# What a client prefers

The `Prefer` header says how a write is answered, whether a read counts all rows, and how an insert
resolves collisions; the `Accept` header may ask for a single object in place of an array. Of several
preferences of one sort the last one counts, and what is not known is ignored.
-/

namespace Gateway.Http

open Gateway.Sql (Resolution)
open Gateway.Text

/-- What the answer to a write holds. -/
inductive Returning where
  | minimal
  | representation
  | headersOnly
deriving DecidableEq, Repr

/-- The preferences of a request. -/
structure Preferences where
  returning : Returning := .minimal
  /-- All rows are counted. -/
  count : Bool := false
  resolution : Option Resolution := none
deriving DecidableEq, Repr

namespace Preferences

/-- Take up one preference. -/
def add (p : Preferences) (token : List Char) : Preferences :=
  match String.ofList token with
  | "return=representation" => { p with returning := .representation }
  | "return=minimal" => { p with returning := .minimal }
  | "return=headers-only" => { p with returning := .headersOnly }
  | "count=exact" => { p with count := true }
  | "resolution=merge-duplicates" => { p with resolution := some .mergeDuplicates }
  | "resolution=ignore-duplicates" => { p with resolution := some .ignoreDuplicates }
  | _ => p

/-- The preferences that the header fields express. -/
def ofHeaders (hs : Headers) : Preferences :=
  (((hs.texts "prefer").flatMap fun value => fields ',' value.toList).map trim).foldl add {}

/-- The answer to a write holds the written rows. -/
def wantsRows (p : Preferences) : Bool :=
  p.returning == .representation

end Preferences

/-- The media type of a single object. -/
def singleObjectType : String := "application/vnd.pgrst.object+json"

/-- The client accepts a single object. -/
def wantsSingleObject (hs : Headers) : Bool :=
  (hs.texts "accept").any fun value =>
    (fields ',' value.toList).any fun media =>
      (dropFront? singleObjectType.toList (trim media)).isSome

end Gateway.Http
