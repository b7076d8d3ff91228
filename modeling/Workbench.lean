import Workbench.Clock
import Workbench.Decimal.Binary64
import Workbench.Decimal.Numeral
import Workbench.Decimal.Shortest
import Workbench.Duration
import Workbench.Editor
import Workbench.Entries
import Workbench.Failure
import Workbench.Http.Backoff
import Workbench.Http.CallFailure
import Workbench.Http.Client
import Workbench.Http.Exchange
import Workbench.Http.Explanation
import Workbench.Http.Url
import Workbench.Json.Basic
import Workbench.Json.Literal
import Workbench.Json.Printer
import Workbench.Json.Reader
import Workbench.Patch.Basic
import Workbench.Patch.Completion
import Workbench.Patch.Fence
import Workbench.Patch.Marker
import Workbench.Pattern.Basic
import Workbench.Pattern.Fault
import Workbench.Pattern.Match
import Workbench.Pattern.Reader
import Workbench.Project.File
import Workbench.Project.Slug
import Workbench.Project.Store
import Workbench.Project.Store.Memory
import Workbench.Project.Store.Remote
import Workbench.Proofs.Decimal.Nearest
import Workbench.Proofs.Decimal.Scaling
import Workbench.Proofs.Decimal.Shortest
import Workbench.Proofs.Editor.Tabs
import Workbench.Proofs.Editor.Typing
import Workbench.Proofs.Entries
import Workbench.Proofs.Http.Attempts
import Workbench.Proofs.Http.Refusing
import Workbench.Proofs.Http.Replies
import Workbench.Proofs.Json.Doubles
import Workbench.Proofs.Json.Numbers
import Workbench.Proofs.Json.Reading
import Workbench.Proofs.Json.RoundTrip
import Workbench.Proofs.Patch.Agreement
import Workbench.Proofs.Patch.Counting
import Workbench.Proofs.Patch.Extracts
import Workbench.Proofs.Patch.Frames
import Workbench.Proofs.Patch.Naming
import Workbench.Proofs.Patch.Parsing
import Workbench.Proofs.Patch.Rendering
import Workbench.Proofs.Patch.Scanning
import Workbench.Proofs.Patch.Snippets
import Workbench.Proofs.Patch.StrayFences
import Workbench.Proofs.Project.Granting
import Workbench.Proofs.Project.Memory
import Workbench.Proofs.Project.Replay
import Workbench.Proofs.Project.Settled
import Workbench.Proofs.Project.Slug
import Workbench.Proofs.Project.Surfacing
import Workbench.Proofs.Review.Alone
import Workbench.Proofs.Review.Interleaving
import Workbench.Proofs.Review.Listing
import Workbench.Proofs.Review.Locking
import Workbench.Proofs.Review.Outcomes
import Workbench.Proofs.Review.Ownership
import Workbench.Proofs.Review.Retrying
import Workbench.Proofs.Review.Schedule
import Workbench.Proofs.Review.Screen
import Workbench.Proofs.Review.Serial
import Workbench.Proofs.Review.Serializable
import Workbench.Proofs.Review.Sharing
import Workbench.Proofs.Review.Streaming
import Workbench.Proofs.Review.Stride
import Workbench.Proofs.Review.Typing
import Workbench.Proofs.Review.Unlisted
import Workbench.Proofs.Review.Unseen
import Workbench.Proofs.Service.Refusals
import Workbench.Proofs.Service.Routing
import Workbench.Proofs.Service.Totality
import Workbench.Proofs.Session.Consistency
import Workbench.Proofs.Session.Echo
import Workbench.Proofs.Session.Listings
import Workbench.Proofs.Session.Mirror
import Workbench.Proofs.Session.Persistence
import Workbench.Proofs.Session.Placement
import Workbench.Proofs.Session.Reaching
import Workbench.Proofs.Session.Resync
import Workbench.Proofs.Session.Scrollback
import Workbench.Proofs.Shell.Codec
import Workbench.Proofs.Shell.LineCounts
import Workbench.Proofs.Shell.Making
import Workbench.Proofs.Shell.Moving
import Workbench.Proofs.Shell.Operands
import Workbench.Proofs.Shell.Quoting
import Workbench.Proofs.Shell.Removing
import Workbench.Proofs.Shell.Steps
import Workbench.Proofs.Shell.Transition
import Workbench.Proofs.Shell.Wording
import Workbench.Proofs.Shell.Writing
import Workbench.Proofs.Storage.InFile
import Workbench.Proofs.Text.InOrder
import Workbench.Proofs.Text.Lowercase
import Workbench.Proofs.Text.Scan
import Workbench.Proofs.Text.Utf8
import Workbench.Proofs.Tree.Addressing
import Workbench.Proofs.Tree.Canonical
import Workbench.Proofs.Tree.Changes
import Workbench.Proofs.Tree.Codec
import Workbench.Proofs.Tree.Hereditary
import Workbench.Proofs.Tree.Items
import Workbench.Proofs.Tree.Locations
import Workbench.Proofs.Tree.Resolution
import Workbench.Proofs.Workspace.Clearing
import Workbench.Proofs.Workspace.Crossing
import Workbench.Proofs.Workspace.Following
import Workbench.Proofs.Workspace.InStep
import Workbench.Proofs.Workspace.Opening
import Workbench.Proofs.Workspace.Trailing
import Workbench.Proofs.Workspace.Waiting
import Workbench.Review.Apply
import Workbench.Review.Basic
import Workbench.Review.Round
import Workbench.Schema.Check
import Workbench.Schema.Issue
import Workbench.Service.Call
import Workbench.Service.Handle
import Workbench.Service.Launch
import Workbench.Service.Report
import Workbench.Service.Route
import Workbench.Session
import Workbench.Settings
import Workbench.Shell.Command
import Workbench.Shell.Execute
import Workbench.Shell.Files
import Workbench.Shell.Handler
import Workbench.Shell.Line
import Workbench.Shell.Lines
import Workbench.Shell.Navigation
import Workbench.Shell.Result
import Workbench.Shell.State
import Workbench.Shell.System
import Workbench.Storage.Basic
import Workbench.Storage.JsonFile
import Workbench.Text.Blank
import Workbench.Text.CaseTable
import Workbench.Text.Character
import Workbench.Text.IdentifierTable
import Workbench.Text.Lowercase
import Workbench.Text.NumeralTable
import Workbench.Text.PrintableTable
import Workbench.Text.Quoted
import Workbench.Text.Runs
import Workbench.Text.Split
import Workbench.Text.Utf8
import Workbench.Text.WordTable
import Workbench.Tree.Basic
import Workbench.Tree.Consistency
import Workbench.Tree.Path
import Workbench.Tree.Permissions
import Workbench.Tree.Wire
import Workbench.Workspace
