import OncePerKey.Decimal.Shortest
import OncePerKey.Digest.Sha256
import OncePerKey.Failure
import OncePerKey.Health
import OncePerKey.Http.Envelope
import OncePerKey.Http.Gate
import OncePerKey.Http.MediaType
import OncePerKey.Http.Message
import OncePerKey.Http.Route
import OncePerKey.Http.Service
import OncePerKey.Http.Site
import OncePerKey.Http.Uri
import OncePerKey.Json.Reader
import OncePerKey.Json.Scanner
import OncePerKey.Json.Schema
import OncePerKey.Json.Value
import OncePerKey.Json.Writer
import OncePerKey.Key.Basic
import OncePerKey.Key.Composite
import OncePerKey.Key.Mask
import OncePerKey.Key.Written
import OncePerKey.Lock.Memory
import OncePerKey.Lock.Token
import OncePerKey.Log.Filter
import OncePerKey.Log.Render
import OncePerKey.Observe.Event
import OncePerKey.Observe.Metrics
import OncePerKey.Observe.Tally
import OncePerKey.Orders
import OncePerKey.Postgres.Client
import OncePerKey.Postgres.Table
import OncePerKey.Program
import OncePerKey.Proofs.Discipline
import OncePerKey.Proofs.Http.Admission
import OncePerKey.Proofs.Http.Behind
import OncePerKey.Proofs.Http.Fidelity
import OncePerKey.Proofs.Http.Message
import OncePerKey.Proofs.Http.Rebuilt
import OncePerKey.Proofs.Http.Visit
import OncePerKey.Proofs.Json.Scanner
import OncePerKey.Proofs.Json.Schema
import OncePerKey.Proofs.Key.Spelling
import OncePerKey.Proofs.Lock.Exclusion
import OncePerKey.Proofs.Lock.Memory
import OncePerKey.Proofs.Lock.Term
import OncePerKey.Proofs.Moment
import OncePerKey.Proofs.Postgres.FirstWriter
import OncePerKey.Proofs.Postgres.Round
import OncePerKey.Proofs.Postgres.Table
import OncePerKey.Proofs.Postgres.Visible
import OncePerKey.Proofs.Redis.Course
import OncePerKey.Proofs.Redis.Discard
import OncePerKey.Proofs.Redis.FirstWriter
import OncePerKey.Proofs.Redis.Lock
import OncePerKey.Proofs.Redis.LockStage
import OncePerKey.Proofs.Redis.Origin
import OncePerKey.Proofs.Redis.Server
import OncePerKey.Proofs.Redis.Stage
import OncePerKey.Proofs.Redis.Stale
import OncePerKey.Proofs.Request.Account
import OncePerKey.Proofs.Request.Calls
import OncePerKey.Proofs.Request.Conduct
import OncePerKey.Proofs.Request.Course
import OncePerKey.Proofs.Request.Guard
import OncePerKey.Proofs.Request.Holders
import OncePerKey.Proofs.Request.Isolation
import OncePerKey.Proofs.Request.Kept
import OncePerKey.Proofs.Request.Move
import OncePerKey.Proofs.Request.Once
import OncePerKey.Proofs.Request.Progress
import OncePerKey.Proofs.Request.Replay
import OncePerKey.Proofs.Request.Shared
import OncePerKey.Proofs.Request.Stage
import OncePerKey.Proofs.Request.Verdict
import OncePerKey.Proofs.Request.Winner
import OncePerKey.Proofs.Responder
import OncePerKey.Proofs.Response.Snapshot
import OncePerKey.Proofs.Store.Accepted
import OncePerKey.Proofs.Store.Memory
import OncePerKey.Proofs.Store.Sequence
import OncePerKey.Proofs.Text.Digits
import OncePerKey.Proofs.Text.Hex
import OncePerKey.Proofs.Text.Utf8
import OncePerKey.Proofs.Time.Calendar
import OncePerKey.Proofs.Time.Rfc3339
import OncePerKey.Proofs.Trace
import OncePerKey.Proofs.World
import OncePerKey.Redis.Client
import OncePerKey.Redis.Reply
import OncePerKey.Redis.Server
import OncePerKey.Rehearsal.Clock
import OncePerKey.Rehearsal.Guarding
import OncePerKey.Rehearsal.Numbered
import OncePerKey.Rehearsal.Scene
import OncePerKey.Rehearsal.Server
import OncePerKey.Rehearsal.StandIn
import OncePerKey.Rehearsal.Sweeping
import OncePerKey.Rehearsal.Task
import OncePerKey.Rehearsal.Web
import OncePerKey.Request.Basic
import OncePerKey.Request.Execute
import OncePerKey.Request.Guard
import OncePerKey.Response.Basic
import OncePerKey.Settings.Basic
import OncePerKey.Settings.Layers
import OncePerKey.Settings.Reader
import OncePerKey.Settings.Shown
import OncePerKey.Settings.Tree
import OncePerKey.Store.Memory
import OncePerKey.Sweep
import OncePerKey.Text.Blank
import OncePerKey.Text.Cased
import OncePerKey.Text.Hex
import OncePerKey.Text.Invisible
import OncePerKey.Text.LowerCase
import OncePerKey.Text.Quoted
import OncePerKey.Text.Utf8
import OncePerKey.Time.Calendar
import OncePerKey.Time.Rfc3339
import OncePerKey.Time.Timestamp
import OncePerKey.Uuid
import OncePerKey.Proofs.Store.Sequence
import OncePerKey.Proofs.Postgres.Sequence
import OncePerKey.Proofs.Redis.Session
import OncePerKey.Proofs.Redis.Sequence
import OncePerKey.Proofs.Lock.Desk
import OncePerKey.Proofs.Lock.Sequence
import OncePerKey.Proofs.Redis.LockSequence
import OncePerKey.Proofs.Key.Identity
import OncePerKey.Proofs.Redis.Payload
import OncePerKey.Proofs.Request.Sheet
import OncePerKey.Proofs.Request.Balance
import OncePerKey.Proofs.Request.Content
import OncePerKey.Proofs.Lock.Timeout
import OncePerKey.Proofs.Request.Upshot
import OncePerKey.Proofs.Request.Transparency
import OncePerKey.Proofs.Request.Fingerprint
import OncePerKey.Proofs.Request.Contention
import OncePerKey.Proofs.Sweep.Backlog
import OncePerKey.Proofs.Sweep.Counted
import OncePerKey.Proofs.Redis.Heal
import OncePerKey.Proofs.Text.LowerCase
import OncePerKey.Proofs.Key.Route
import OncePerKey.Proofs.Key.Grammar
import OncePerKey.Proofs.Text.WellFormed
import OncePerKey.Proofs.Key.Mask
import OncePerKey.Proofs.Key.Reading
import OncePerKey.Proofs.Request.Secrecy
import OncePerKey.Proofs.Response.Capture
