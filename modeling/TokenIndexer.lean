import TokenIndexer.Block
import TokenIndexer.Bytes
import TokenIndexer.CommandLine
import TokenIndexer.Decimal.Binary64
import TokenIndexer.Decimal.Digits
import TokenIndexer.DomainName
import TokenIndexer.DomainName.Direction
import TokenIndexer.DomainName.Joining
import TokenIndexer.DomainName.Mapping
import TokenIndexer.DomainName.Mapping.Listed
import TokenIndexer.DomainName.Normal
import TokenIndexer.DomainName.Punycode
import TokenIndexer.Event
import TokenIndexer.Event.Json
import TokenIndexer.Height
import TokenIndexer.Ingest.Commit
import TokenIndexer.Ingest.Fetch
import TokenIndexer.Ingest.Fetcher
import TokenIndexer.Ingest.Slots
import TokenIndexer.Json
import TokenIndexer.Json.Document
import TokenIndexer.Json.Kept
import TokenIndexer.Json.Shape
import TokenIndexer.Json.Token
import TokenIndexer.Main
import TokenIndexer.Message
import TokenIndexer.Node
import TokenIndexer.Node.Remote
import TokenIndexer.Node.Reply
import TokenIndexer.Node.Url
import TokenIndexer.Ordered
import TokenIndexer.Proofs.Bytes
import TokenIndexer.Proofs.Decimal.Spelling
import TokenIndexer.Proofs.Event.Lifecycle
import TokenIndexer.Proofs.Event.OwnQueue
import TokenIndexer.Proofs.Event.Subscription
import TokenIndexer.Proofs.Height
import TokenIndexer.Proofs.Ingest.AllOrNothing
import TokenIndexer.Proofs.Ingest.Announcement
import TokenIndexer.Proofs.Ingest.Balance
import TokenIndexer.Proofs.Ingest.Commit
import TokenIndexer.Proofs.Ingest.Completeness
import TokenIndexer.Proofs.Ingest.Consecutive
import TokenIndexer.Proofs.Ingest.Contents
import TokenIndexer.Proofs.Ingest.Division
import TokenIndexer.Proofs.Ingest.Exhaustion
import TokenIndexer.Proofs.Ingest.Fetch
import TokenIndexer.Proofs.Ingest.GapFree
import TokenIndexer.Proofs.Ingest.Independence
import TokenIndexer.Proofs.Ingest.Order
import TokenIndexer.Proofs.Ingest.Overflow
import TokenIndexer.Proofs.Ingest.Reassembly
import TokenIndexer.Proofs.Ingest.Reservation
import TokenIndexer.Proofs.Ingest.Retries
import TokenIndexer.Proofs.Ingest.Schedule
import TokenIndexer.Proofs.Ingest.Slots
import TokenIndexer.Proofs.Ingest.Staging
import TokenIndexer.Proofs.Json.Document
import TokenIndexer.Proofs.Json.Grammar
import TokenIndexer.Proofs.Json.Kept
import TokenIndexer.Proofs.Json.Members
import TokenIndexer.Proofs.Json.Place
import TokenIndexer.Proofs.Json.RoundTrip
import TokenIndexer.Proofs.Json.Shape
import TokenIndexer.Proofs.Json.Token
import TokenIndexer.Proofs.Node.Block
import TokenIndexer.Proofs.Node.Integer
import TokenIndexer.Proofs.Node.Outcome
import TokenIndexer.Proofs.Node.Reply
import TokenIndexer.Proofs.Ordered
import TokenIndexer.Proofs.Proto.Field
import TokenIndexer.Proofs.Proto.Grammar
import TokenIndexer.Proofs.Proto.Merge
import TokenIndexer.Proofs.Record
import TokenIndexer.Proofs.Record.Canonical
import TokenIndexer.Proofs.Registration.Once
import TokenIndexer.Proofs.Registration.Package
import TokenIndexer.Proofs.Registration.Process
import TokenIndexer.Proofs.Rehearsal.Run
import TokenIndexer.Proofs.Rehearsal.Worker
import TokenIndexer.Proofs.Settings.Assignment
import TokenIndexer.Proofs.Settings.Commutation
import TokenIndexer.Proofs.Settings.Grammar
import TokenIndexer.Proofs.Settings.Override
import TokenIndexer.Proofs.Settings.Precedence
import TokenIndexer.Proofs.Settings.ValueText
import TokenIndexer.Proofs.Slot
import TokenIndexer.Proofs.Startup
import TokenIndexer.Proofs.Store.History
import TokenIndexer.Proofs.Store.Interchange
import TokenIndexer.Proofs.Store.Keeping
import TokenIndexer.Proofs.Store.Keyed
import TokenIndexer.Proofs.Store.Layered
import TokenIndexer.Proofs.Store.Memory
import TokenIndexer.Proofs.Store.ReadBack
import TokenIndexer.Proofs.Store.Serial
import TokenIndexer.Proofs.Text
import TokenIndexer.Proofs.Token.Banker
import TokenIndexer.Proofs.Token.Detection
import TokenIndexer.Proofs.Toml.Document
import TokenIndexer.Proofs.Toml.Literal
import TokenIndexer.Proofs.Toml.Path
import TokenIndexer.Proofs.Toml.Quoted
import TokenIndexer.Proofs.Toml.Scalar
import TokenIndexer.Proofs.Toml.Section
import TokenIndexer.Proofs.Toml.Token
import TokenIndexer.Proofs.Toml.Value
import TokenIndexer.Proofs.Tx.Binary
import TokenIndexer.Proofs.Tx.Composition
import TokenIndexer.Proofs.Tx.Decoder
import TokenIndexer.Proofs.Tx.Forms
import TokenIndexer.Proto.Field
import TokenIndexer.Record
import TokenIndexer.Registration.Package
import TokenIndexer.Registration.Registrar
import TokenIndexer.Registration.Task
import TokenIndexer.Rehearsal.Program
import TokenIndexer.Rehearsal.Run
import TokenIndexer.Rehearsal.Script
import TokenIndexer.Settings
import TokenIndexer.Settings.Json
import TokenIndexer.Settings.Load
import TokenIndexer.Slot
import TokenIndexer.Startup
import TokenIndexer.Store
import TokenIndexer.Store.Keyed
import TokenIndexer.Store.Memory
import TokenIndexer.Store.Session
import TokenIndexer.Text
import TokenIndexer.Text.CodePoint
import TokenIndexer.Token.Banker
import TokenIndexer.Token.Detection
import TokenIndexer.Toml.Datetime
import TokenIndexer.Toml.Document
import TokenIndexer.Toml.Scalar
import TokenIndexer.Toml.Section
import TokenIndexer.Toml.Token
import TokenIndexer.Toml.Value
import TokenIndexer.Tx.Binary
import TokenIndexer.Tx.Decoder
