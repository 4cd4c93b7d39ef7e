import ModelServing.Client
import ModelServing.Rehearsal.Step
import ModelServing.Rehearsal.Tasks
import ModelServing.Rehearsal.Vigil
import ModelServing.Rest.Tasks
import ModelServing.Route
import ModelServing.Socket
import ModelServing.Text.Excerpt
import ModelServing.Proofs.Session.Operation
import ModelServing.Proofs.Session.Outcome
import ModelServing.Proofs.Session.Reading
import ModelServing.Proofs.Session.Consumer
import ModelServing.Proofs.Session.Wire
import ModelServing.Proofs.Session.Intake
import ModelServing.Proofs.Session.Cargo
import ModelServing.Proofs.Session.Passage
import ModelServing.Proofs.Session.Transmission
import ModelServing.Proofs.Session.Loss
import ModelServing.Proofs.Session.Renewal
import ModelServing.Proofs.Session.Reception
import ModelServing.Proofs.Session.Course
import ModelServing.Proofs.Session.Informed
import ModelServing.Proofs.Session.Conduct
import ModelServing.Proofs.Session.Release
import ModelServing.Proofs.Session.Delivery
import ModelServing.Proofs.Session.Consistency
import ModelServing.Proofs.Session.Refusals
import ModelServing.Proofs.Session.Endings
import ModelServing.Proofs.Session.Stops
import ModelServing.Proofs.Session.Identity
import ModelServing.Proofs.Gate.Calls
import ModelServing.Proofs.Gate.Waits
import ModelServing.Proofs.Gate.Timed
import ModelServing.Proofs.Gate.Waiter
import ModelServing.Proofs.Task.Schedule
import ModelServing.Proofs.Task.Deadline
import ModelServing.Proofs.Task.Backoff
import ModelServing.Proofs.Number.Nearest
import ModelServing.Proofs.Headers
import ModelServing.Proofs.Task.Account
import ModelServing.Proofs.Stream.Arrivals
import ModelServing.Proofs.Stream.Parts
import ModelServing.Proofs.Stream.Speech
import ModelServing.Proofs.Stream.Agreement
import ModelServing.Proofs.Stream.Cost
import ModelServing.Proofs.Stream.Lifecycle
import ModelServing.Proofs.EventStream.Chunks
import ModelServing.Proofs.Json.Scan
import ModelServing.Proofs.Json.RoundTrip
import ModelServing.Proofs.Usage
import ModelServing.Proofs.Reply
import ModelServing.Proofs.Dialect.Envelope
import ModelServing.Proofs.EventStream.Blocks
import ModelServing.Proofs.EventStream.Failures
import ModelServing.Proofs.Json.Record
import ModelServing.Proofs.Text.Excerpt
import ModelServing.Proofs.Text.Percent
import ModelServing.Proofs.Url.Path
import ModelServing.Proofs.Reach
import ModelServing.Proofs.Ascending
import ModelServing.Proofs.Conversation
import ModelServing.Proofs.Headers.Assembly
import ModelServing.Proofs.Rest.Refusal
import ModelServing.Proofs.Rest.Address
import ModelServing.Proofs.Rehearsal
