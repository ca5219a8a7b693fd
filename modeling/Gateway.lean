import Gateway.Database.Pool
import Gateway.Feed.Source
import Gateway.Feed.Timeline
import Gateway.Http.Service
import Gateway.Socket.Credential
import Gateway.Socket.Service
import Gateway.Socket.Session
import Gateway.Proofs.Json.Members
import Gateway.Proofs.Presence.Table
import Gateway.Proofs.Presence.View
import Gateway.Proofs.Channel.Effect
import Gateway.Proofs.Channel.Consistency
import Gateway.Proofs.Channel.Convergence
import Gateway.Proofs.Except
import Gateway.Proofs.Sql.Clause
import Gateway.Proofs.Sql.Independence
import Gateway.Proofs.Sql.Injection
import Gateway.Proofs.Sql.Where
import Gateway.Proofs.Database.Exchange
import Gateway.Proofs.Database.Transaction
import Gateway.Proofs.Http.Discipline
import Gateway.Proofs.Channel.Enrolment
import Gateway.Proofs.Channel.Delivery
import Gateway.Proofs.Sql.Dialect
import Gateway.Proofs.Sql.RoundTrip
import Gateway.Proofs.Sql.Alignment
import Gateway.Proofs.Channel.Answer
import Gateway.Proofs.Channel.Isolation
import Gateway.Proofs.Http.Rejection
import Gateway.Proofs.Feed.Delivery
import Gateway.Proofs.Auth.Privilege
import Gateway.Proofs.Sql.Scope
import Gateway.Proofs.Sql.Hygiene
import Gateway.Proofs.Channel.Operands
import Gateway.Proofs.Sql.Naming
import Gateway.Proofs.Channel.Comparison
import Gateway.Proofs.Channel.Provenance
import Gateway.Proofs.Channel.Wire
import Gateway.Proofs.Sql.Casting
import Gateway.Proofs.Presence.History
import Gateway.Proofs.Socket.Credential
import Gateway.Proofs.Channel.Departure
import Gateway.Proofs.Socket.Session
import Gateway.Proofs.Sql.Parameter
import Gateway.Proofs.Channel.Coherence
import Gateway.Proofs.Sql.Reference
import Gateway.Proofs.Sql.Selection
import Gateway.Proofs.Database.Read
import Gateway.Proofs.Http.Page
import Gateway.Proofs.Text.Decomposition
