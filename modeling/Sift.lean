import Sift.Backend.Recorder
import Sift.Derive.Schema
import Sift.Memory.Store
import Sift.Mongo.Client
import Sift.Proofs.Filter.Criteria
import Sift.Proofs.Filter.Grammar
import Sift.Proofs.Filter.Typed
import Sift.Proofs.FirstSeen
import Sift.Proofs.Match.Compile
import Sift.Proofs.Outcome
import Sift.Proofs.Page.Serve
import Sift.Record.Booking
import Sift.Record.Employee
import Sift.Proofs.Match.Select
import Sift.Proofs.Memory.Insert
import Sift.Proofs.Memory.Refused
import Sift.Proofs.Filter.Conjoin
import Sift.Proofs.Page.Request
import Sift.Proofs.Bson.Same
import Sift.Proofs.Match.Negation
import Sift.Proofs.Bson.Order
import Sift.Proofs.Memory.Sort
import Sift.Proofs.Memory.Distinct
import Sift.Proofs.Memory.Reorder
import Sift.Proofs.Query.Built
import Sift.Proofs.Mongo.Request
import Sift.Proofs.Memory.SelfEqual
import Sift.Proofs.Pattern.Literal
import Sift.Proofs.Filter.Literal
import Sift.Proofs.Text.Digits
import Sift.Proofs.Number.Integer
import Sift.Proofs.Number.Rounding
import Sift.Proofs.Number.Decimal
import Sift.Proofs.Number.Text
import Sift.Proofs.Time.Calendar
import Sift.Proofs.Time.Read
import Sift.Proofs.Time.Text
import Sift.Proofs.Uuid
import Sift.Proofs.Value.Text
import Sift.Proofs.Derive.StoredKey
import Sift.Proofs.Page.Blame
import Sift.Proofs.Schema.Conform
import Sift.Proofs.Record.Stored
import Sift.Proofs.Record.Collection
import Sift.Proofs.Schema.Resolve
import Sift.Proofs.Match.Range
import Sift.Proofs.Match.Bound
import Sift.Proofs.Time.Form
import Sift.Proofs.Value.Precision
import Sift.Proofs.Memory.Stable
import Sift.Proofs.Value.Canonical
import Sift.Proofs.Value.Agree
import Sift.Proofs.Schema.Built
import Sift.Proofs.Derive.Listed
import Sift.Proofs.Derive.Given
import Sift.Proofs.Derive.Rearrange
import Sift.Proofs.Derive.Precedence
import Sift.Proofs.Value.Set
import Sift.Proofs.Query.Calls
import Sift.Proofs.Mongo.Stored
import Sift.Proofs.Hash
