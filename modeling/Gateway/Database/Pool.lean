import Gateway.Database.Address
import Gateway.Database.Connection

/-!
# Pools of connections

A pool opens connections to the database at one address when they are asked for. That the address names
no database shows at once, that it is not consistent shows only with the first connection.
-/

namespace Gateway.Database

/-- A pool of connections. -/
structure Pool where
  address : Address
deriving DecidableEq, Repr

namespace Pool

/-- A pool for the database at an address, which has to be an address and to name a database. -/
def ofAddress? (address : String) : Option Pool :=
  ((Address.read? address).filter (·.namesDatabase)).map fun a => ⟨a.withUsualHosts⟩

/-- The connections of a pool to a database. -/
def backend {σ : Type} (p : Pool) (db : Backend σ) : Backend σ where
  acquire s :=
    if p.address.isComplete then db.acquire s else (.error (.notOpened .misaddressed), s)
  answer c s := db.answer c s

end Pool

end Gateway.Database
