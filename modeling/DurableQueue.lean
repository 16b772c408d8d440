import DurableQueue.Bytes
import DurableQueue.Duration
import DurableQueue.Error
import DurableQueue.Event
import DurableQueue.Files.Path
import DurableQueue.Files.Tree
import DurableQueue.Format.Json
import DurableQueue.Format.Reader
import DurableQueue.Format.Toml.Document
import DurableQueue.Format.Toml.Moment
import DurableQueue.Format.Toml.Scalar
import DurableQueue.Format.Toml.Value
import DurableQueue.Item
import DurableQueue.Key
import DurableQueue.Log.Directive
import DurableQueue.Log.Filter
import DurableQueue.Log.Line
import DurableQueue.Log.Logger
import DurableQueue.Named
import DurableQueue.Number.Binary64
import DurableQueue.Number.Decimal
import DurableQueue.Payload.Schema
import DurableQueue.Payload.Value
import DurableQueue.Proofs.Key.Order
import DurableQueue.Proofs.Log.Environment
import DurableQueue.Proofs.Log.Installing
import DurableQueue.Proofs.Log.Modules
import DurableQueue.Proofs.Log.Verdict
import DurableQueue.Proofs.Log.VisitOrder
import DurableQueue.Proofs.Number.Decimal
import DurableQueue.Proofs.Number.Rounding
import DurableQueue.Proofs.Payload.Exact
import DurableQueue.Proofs.Payload.RoundTrip
import DurableQueue.Proofs.Payload.Soundness
import DurableQueue.Proofs.Payload.Typing
import DurableQueue.Proofs.Queue.Atomicity
import DurableQueue.Proofs.Queue.Commuting
import DurableQueue.Proofs.Queue.Counters
import DurableQueue.Proofs.Queue.Crash
import DurableQueue.Proofs.Queue.Drain
import DurableQueue.Proofs.Queue.Dropping
import DurableQueue.Proofs.Queue.Entries
import DurableQueue.Proofs.Queue.Fifo
import DurableQueue.Proofs.Queue.Invariant
import DurableQueue.Proofs.Queue.Items
import DurableQueue.Proofs.Queue.Journal
import DurableQueue.Proofs.Queue.LateFailure
import DurableQueue.Proofs.Queue.Listed
import DurableQueue.Proofs.Queue.Lookups
import DurableQueue.Proofs.Queue.Moves
import DurableQueue.Proofs.Queue.Objects
import DurableQueue.Proofs.Queue.Outcomes
import DurableQueue.Proofs.Queue.Recovery
import DurableQueue.Proofs.Queue.Refinement
import DurableQueue.Proofs.Queue.Reported
import DurableQueue.Proofs.Queue.Requests
import DurableQueue.Proofs.Queue.Revision
import DurableQueue.Proofs.Queue.Rounds
import DurableQueue.Proofs.Queue.Session
import DurableQueue.Proofs.Queue.Shut
import DurableQueue.Proofs.Queue.Span
import DurableQueue.Proofs.Queue.Stale
import DurableQueue.Proofs.Queue.Texts
import DurableQueue.Proofs.Queue.Tracking
import DurableQueue.Proofs.Queue.ZeroId
import DurableQueue.Proofs.Settings.Acceptance
import DurableQueue.Proofs.Settings.Fields
import DurableQueue.Proofs.Settings.Files
import DurableQueue.Proofs.Settings.Layers
import DurableQueue.Proofs.Settings.Numbers
import DurableQueue.Proofs.Settings.Overlay
import DurableQueue.Proofs.Settings.Precedence
import DurableQueue.Proofs.Settings.Reach
import DurableQueue.Proofs.Settings.Variables
import DurableQueue.Proofs.Settings.Verbatim
import DurableQueue.Proofs.Store.Extremes
import DurableQueue.Proofs.Store.Lawful
import DurableQueue.Proofs.Store.Logged
import DurableQueue.Proofs.Store.Steady
import DurableQueue.Proofs.Store.Watched
import DurableQueue.Proofs.Text.Decoding
import DurableQueue.Proofs.Text.Front
import DurableQueue.Proofs.Text.LowerCase
import DurableQueue.Proofs.Text.Utf8
import DurableQueue.Queue.Basic
import DurableQueue.Settings.Address
import DurableQueue.Settings.Basic
import DurableQueue.Settings.Load
import DurableQueue.Settings.Logging
import DurableQueue.Settings.Merge
import DurableQueue.Settings.Node
import DurableQueue.Settings.Problem
import DurableQueue.Settings.Record
import DurableQueue.Settings.Source
import DurableQueue.Settings.Storage
import DurableQueue.Settings.Typed
import DurableQueue.Store.Durable
import DurableQueue.Store.Faulty
import DurableQueue.Store.Options
import DurableQueue.Store.Ordered
import DurableQueue.Store.Retry
import DurableQueue.Store.Table
import DurableQueue.Text.Alphanumeric
import DurableQueue.Text.Blank
import DurableQueue.Text.Cased
import DurableQueue.Text.LowerCase
import DurableQueue.Text.Quoted
import DurableQueue.Text.Split
import DurableQueue.Text.Unprintable
import DurableQueue.Text.Utf8
import DurableQueue.Proofs.Store.Retry
import DurableQueue.Proofs.Key.Codec
