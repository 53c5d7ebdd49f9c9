import FlowRuntime.Deployment
import FlowRuntime.Document.Basic
import FlowRuntime.Document.Spec
import FlowRuntime.Failure
import FlowRuntime.FanOut
import FlowRuntime.Instance.Crowd
import FlowRuntime.Instance.Host
import FlowRuntime.Instance.Lifecycle
import FlowRuntime.Instance.Local
import FlowRuntime.Instance.Office
import FlowRuntime.Instance.Options
import FlowRuntime.Json.Codec
import FlowRuntime.Json.Reader
import FlowRuntime.Json.Token
import FlowRuntime.Json.Value
import FlowRuntime.Json.Writer
import FlowRuntime.Listener.Audience
import FlowRuntime.Listener.Inbox
import FlowRuntime.Listener.Recorder
import FlowRuntime.Program.Args
import FlowRuntime.Program.Identity
import FlowRuntime.Program.Spec
import FlowRuntime.Proofs.Deployment
import FlowRuntime.Proofs.FanOut
import FlowRuntime.Proofs.FlowSpec
import FlowRuntime.Proofs.Instance.Local
import FlowRuntime.Proofs.Instance.Office
import FlowRuntime.Proofs.Instance.Together
import FlowRuntime.Proofs.Json.Text
import FlowRuntime.Proofs.Listener.Effort
import FlowRuntime.Proofs.Listener.Patience
import FlowRuntime.Proofs.Listener.Reception
import FlowRuntime.Proofs.Partitioner
import FlowRuntime.Proofs.Program.Args
import FlowRuntime.Proofs.Program.Codec
import FlowRuntime.Proofs.Program.Validity
import FlowRuntime.Proofs.Queue.Binding
import FlowRuntime.Proofs.Queue.History
import FlowRuntime.Proofs.Queue.Name
import FlowRuntime.Proofs.Record.Archive
import FlowRuntime.Proofs.Record.Codec
import FlowRuntime.Proofs.Record.Mirror
import FlowRuntime.Proofs.Record.Recorder
import FlowRuntime.Proofs.Record.Store
import FlowRuntime.Proofs.Record.Written
import FlowRuntime.Proofs.Registry
import FlowRuntime.Proofs.Rehearsal.Abreast
import FlowRuntime.Proofs.Rehearsal.Agreement
import FlowRuntime.Proofs.Rehearsal.Airing
import FlowRuntime.Proofs.Rehearsal.Alone
import FlowRuntime.Proofs.Rehearsal.Alongside
import FlowRuntime.Proofs.Rehearsal.Bare
import FlowRuntime.Proofs.Rehearsal.Broadcast
import FlowRuntime.Proofs.Rehearsal.Clean
import FlowRuntime.Proofs.Rehearsal.Concert
import FlowRuntime.Proofs.Rehearsal.Course
import FlowRuntime.Proofs.Rehearsal.Decisions
import FlowRuntime.Proofs.Rehearsal.Delivery
import FlowRuntime.Proofs.Rehearsal.Ensemble
import FlowRuntime.Proofs.Rehearsal.Errands
import FlowRuntime.Proofs.Rehearsal.Hearing
import FlowRuntime.Proofs.Rehearsal.Hosted
import FlowRuntime.Proofs.Rehearsal.Hush
import FlowRuntime.Proofs.Rehearsal.Kept
import FlowRuntime.Proofs.Rehearsal.Mirrored
import FlowRuntime.Proofs.Rehearsal.Muting
import FlowRuntime.Proofs.Rehearsal.Opening
import FlowRuntime.Proofs.Rehearsal.Ownership
import FlowRuntime.Proofs.Rehearsal.Parallel
import FlowRuntime.Proofs.Rehearsal.Pending
import FlowRuntime.Proofs.Rehearsal.Playing
import FlowRuntime.Proofs.Rehearsal.Prompt
import FlowRuntime.Proofs.Rehearsal.Recess
import FlowRuntime.Proofs.Rehearsal.Recorded
import FlowRuntime.Proofs.Rehearsal.Rehearsed
import FlowRuntime.Proofs.Rehearsal.Residents
import FlowRuntime.Proofs.Rehearsal.Roles
import FlowRuntime.Proofs.Rehearsal.Scene
import FlowRuntime.Proofs.Rehearsal.Serialized
import FlowRuntime.Proofs.Rehearsal.Sights
import FlowRuntime.Proofs.Rehearsal.Solo
import FlowRuntime.Proofs.Rehearsal.Staged
import FlowRuntime.Proofs.Rehearsal.Startup
import FlowRuntime.Proofs.Rehearsal.Tandem
import FlowRuntime.Proofs.Rehearsal.Turn
import FlowRuntime.Proofs.Rehearsal.Vain
import FlowRuntime.Proofs.Retry
import FlowRuntime.Proofs.Roster
import FlowRuntime.Proofs.Run.Configuration
import FlowRuntime.Proofs.Run.Course
import FlowRuntime.Proofs.Run.Courtesy
import FlowRuntime.Proofs.Run.Enacted
import FlowRuntime.Proofs.Run.Handles
import FlowRuntime.Proofs.Run.Lifecycle
import FlowRuntime.Proofs.Run.Lifetime
import FlowRuntime.Proofs.Run.Reached
import FlowRuntime.Proofs.Run.Requests
import FlowRuntime.Proofs.Run.Rescale
import FlowRuntime.Proofs.Run.RescaleOrder
import FlowRuntime.Proofs.Run.RescaleOutcome
import FlowRuntime.Proofs.Run.Sharing
import FlowRuntime.Proofs.Run.Snapshot
import FlowRuntime.Proofs.Run.Startup
import FlowRuntime.Proofs.Run.Story
import FlowRuntime.Proofs.Run.Stream
import FlowRuntime.Proofs.Run.Tally
import FlowRuntime.Proofs.Run.Transitions
import FlowRuntime.Proofs.Run.Unstalled
import FlowRuntime.Proofs.Run.Waiting
import FlowRuntime.Proofs.SortedMap
import FlowRuntime.Proofs.Text.Bytes
import FlowRuntime.Queue.Binding
import FlowRuntime.Queue.Partitioner
import FlowRuntime.Queue.Seahash
import FlowRuntime.Record.Archive
import FlowRuntime.Record.Basic
import FlowRuntime.Record.Ledger
import FlowRuntime.Record.Store
import FlowRuntime.Registry
import FlowRuntime.Rehearsal.Call
import FlowRuntime.Rehearsal.Fault
import FlowRuntime.Rehearsal.Part
import FlowRuntime.Rehearsal.Performance
import FlowRuntime.Rehearsal.Round
import FlowRuntime.Rehearsal.Scene
import FlowRuntime.Rehearsal.Service
import FlowRuntime.Rehearsal.Step
import FlowRuntime.Rehearsal.World
import FlowRuntime.Retry
import FlowRuntime.Roster
import FlowRuntime.Run.Activity
import FlowRuntime.Run.Basic
import FlowRuntime.Run.Description
import FlowRuntime.Run.Enactment
import FlowRuntime.Run.Lifecycle
import FlowRuntime.Run.Request
import FlowRuntime.Run.Rescale
import FlowRuntime.Run.State
import FlowRuntime.Settings
import FlowRuntime.SortedMap
import FlowRuntime.Text.After
import FlowRuntime.Text.Hidden
import FlowRuntime.Text.Quoted
import FlowRuntime.Wait
import FlowRuntime.Yaml.Codec
import FlowRuntime.Yaml.Cursor
import FlowRuntime.Yaml.Node
import FlowRuntime.Yaml.Repetition
import FlowRuntime.Yaml.Scalar
import FlowRuntime.Yaml.Spec
import FlowRuntime.Yaml.Token
