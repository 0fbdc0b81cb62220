import Rendezvous.Address
import Rendezvous.Address.Reader
import Rendezvous.Admission
import Rendezvous.Admission.Force
import Rendezvous.Admission.Passage
import Rendezvous.Call
import Rendezvous.CommandLine
import Rendezvous.CorrelationId
import Rendezvous.Deadline
import Rendezvous.Deadline.Task
import Rendezvous.Deployment
import Rendezvous.Directory
import Rendezvous.Duration
import Rendezvous.Endpoint
import Rendezvous.Exchange
import Rendezvous.Exchange.Action
import Rendezvous.Exchange.Gathering
import Rendezvous.Fleet
import Rendezvous.Http
import Rendezvous.Http.MediaType
import Rendezvous.Ingress
import Rendezvous.Ingress.Route
import Rendezvous.Json.Magnitude
import Rendezvous.Json.Printer
import Rendezvous.Json.Reader
import Rendezvous.Json.Record
import Rendezvous.Lifecycle
import Rendezvous.Lifecycle.Control
import Rendezvous.Lifecycle.Rehearsal
import Rendezvous.Main
import Rendezvous.Metadata
import Rendezvous.Metadata.QuotedList
import Rendezvous.Node
import Rendezvous.Pending
import Rendezvous.Proofs.Acceptance
import Rendezvous.Proofs.Address.Reading
import Rendezvous.Proofs.Address.RoundTrip
import Rendezvous.Proofs.Admission.MessageLimit
import Rendezvous.Proofs.Admission.Precedence
import Rendezvous.Proofs.Admission.Race
import Rendezvous.Proofs.Admission.Timeline
import Rendezvous.Proofs.Bookkeeping
import Rendezvous.Proofs.Completion
import Rendezvous.Proofs.CorrelationId
import Rendezvous.Proofs.CorrelationId.Spelling
import Rendezvous.Proofs.Deadlines.Accounting
import Rendezvous.Proofs.Deadlines.Agenda
import Rendezvous.Proofs.Deadlines.Ending
import Rendezvous.Proofs.Deadlines.Progress
import Rendezvous.Proofs.Deadlines.Punctuality
import Rendezvous.Proofs.Deadlines.Settling
import Rendezvous.Proofs.Deadlines.Steps
import Rendezvous.Proofs.Echo.Outcome
import Rendezvous.Proofs.Echo.Queue
import Rendezvous.Proofs.Endpoint.Layout
import Rendezvous.Proofs.Endpoint.Literal
import Rendezvous.Proofs.Endpoint.RoundTrip
import Rendezvous.Proofs.Fleet.Move
import Rendezvous.Proofs.Fleet.Registration
import Rendezvous.Proofs.Fleet.Removal
import Rendezvous.Proofs.Fleet.Service
import Rendezvous.Proofs.Handling
import Rendezvous.Proofs.Http.Response
import Rendezvous.Proofs.Ingress.Arrival
import Rendezvous.Proofs.Ingress.Gateway
import Rendezvous.Proofs.Ingress.Responses
import Rendezvous.Proofs.Ingress.Standing
import Rendezvous.Proofs.Isolation
import Rendezvous.Proofs.Isolation.Group
import Rendezvous.Proofs.Json.Documents
import Rendezvous.Proofs.Json.Grammar
import Rendezvous.Proofs.Json.Integers
import Rendezvous.Proofs.Json.Objects
import Rendezvous.Proofs.Json.Printing
import Rendezvous.Proofs.Json.Reading
import Rendezvous.Proofs.Json.Spelling
import Rendezvous.Proofs.Ledger
import Rendezvous.Proofs.Ledger.Custody
import Rendezvous.Proofs.Ledger.Leaving
import Rendezvous.Proofs.Ledger.Removal
import Rendezvous.Proofs.Ledger.Settlement
import Rendezvous.Proofs.Ledger.Tracking
import Rendezvous.Proofs.Lifecycle.Forward
import Rendezvous.Proofs.Lifecycle.LockOrder
import Rendezvous.Proofs.Lifecycle.Patience
import Rendezvous.Proofs.Lifecycle.Rehearsal
import Rendezvous.Proofs.Lifecycle.Service
import Rendezvous.Proofs.Lifecycle.Transition
import Rendezvous.Proofs.Lifecycle.Turns
import Rendezvous.Proofs.Lifecycle.Windows
import Rendezvous.Proofs.Metadata.Augmentation
import Rendezvous.Proofs.Metadata.Fields
import Rendezvous.Proofs.Metadata.QuotedList
import Rendezvous.Proofs.Occurrence
import Rendezvous.Proofs.Occurrence.Chronicle
import Rendezvous.Proofs.Occurrence.Frame
import Rendezvous.Proofs.Occurrence.Ordinary
import Rendezvous.Proofs.Reaction
import Rendezvous.Proofs.Resolution
import Rendezvous.Proofs.Routing
import Rendezvous.Proofs.Run
import Rendezvous.Proofs.Settings.Loading
import Rendezvous.Proofs.Settings.Options
import Rendezvous.Proofs.Text.DigitOrder
import Rendezvous.Proofs.Text.Number
import Rendezvous.Proofs.Text.Trimming
import Rendezvous.Registry
import Rendezvous.Settings
import Rendezvous.Settings.Error
import Rendezvous.Source
import Rendezvous.Source.Blueprint
import Rendezvous.Source.Echo
import Rendezvous.Source.Error
import Rendezvous.Status
import Rendezvous.Text.Blank
import Rendezvous.Text.Number
import Rendezvous.Text.Split
import Rendezvous.Wire
