import IdentityConsole.Api.Client
import IdentityConsole.Api.Error
import IdentityConsole.Api.Request
import IdentityConsole.App.App
import IdentityConsole.App.Input
import IdentityConsole.App.Key
import IdentityConsole.App.Tab
import IdentityConsole.Config
import IdentityConsole.Console.Console
import IdentityConsole.Console.Scope
import IdentityConsole.Console.Task
import IdentityConsole.Console.View
import IdentityConsole.Dict
import IdentityConsole.FileSlot
import IdentityConsole.Http.Address
import IdentityConsole.Http.Reply
import IdentityConsole.Http.Status
import IdentityConsole.Http.Wire
import IdentityConsole.Json.Basic
import IdentityConsole.Json.Binary64
import IdentityConsole.Json.Decode
import IdentityConsole.Json.Draft
import IdentityConsole.Json.Equality
import IdentityConsole.Json.Fault
import IdentityConsole.Json.Number
import IdentityConsole.Json.Printer
import IdentityConsole.Launch.Environment
import IdentityConsole.Launch.Launch
import IdentityConsole.Launch.Typing
import IdentityConsole.Log
import IdentityConsole.Main
import IdentityConsole.Outside
import IdentityConsole.Proofs.Api.Bearer
import IdentityConsole.Proofs.Api.Items
import IdentityConsole.Proofs.Api.Send
import IdentityConsole.Proofs.Console.Change
import IdentityConsole.Proofs.Console.Commute
import IdentityConsole.Proofs.Console.Confluence
import IdentityConsole.Proofs.Console.Credential
import IdentityConsole.Proofs.Console.Effect
import IdentityConsole.Proofs.Console.Faithful
import IdentityConsole.Proofs.Console.Guard
import IdentityConsole.Proofs.Console.Isolation
import IdentityConsole.Proofs.Console.Loading
import IdentityConsole.Proofs.Console.Parallel
import IdentityConsole.Proofs.Console.Poll
import IdentityConsole.Proofs.Console.Rejection
import IdentityConsole.Proofs.Console.Replay
import IdentityConsole.Proofs.Console.Retired
import IdentityConsole.Proofs.Console.Run
import IdentityConsole.Proofs.Console.Update
import IdentityConsole.Proofs.Console.Visit
import IdentityConsole.Proofs.Http.Address
import IdentityConsole.Proofs.Http.Target
import IdentityConsole.Proofs.Json.Decimal
import IdentityConsole.Proofs.Json.Rounding
import IdentityConsole.Proofs.Json.Amount
import IdentityConsole.Proofs.Json.Meaning
import IdentityConsole.Proofs.Json.Members
import IdentityConsole.Proofs.Json.Spelling
import IdentityConsole.Proofs.Json.Value
import IdentityConsole.Proofs.Json.Written
import IdentityConsole.Proofs.Records.Edit
import IdentityConsole.Proofs.Records.Identity
import IdentityConsole.Proofs.Records.Returned
import IdentityConsole.Proofs.Records.SentBack
import IdentityConsole.Proofs.Session.Alike
import IdentityConsole.Proofs.Session.Change
import IdentityConsole.Proofs.Session.FailedLogin
import IdentityConsole.Proofs.Session.Kept
import IdentityConsole.Proofs.Session.Restart
import IdentityConsole.Proofs.Session.Storing
import IdentityConsole.Proofs.Storage.Alike
import IdentityConsole.Proofs.Storage.Entries
import IdentityConsole.Proofs.Storage.Sharing
import IdentityConsole.Proofs.Text.Percent
import IdentityConsole.Proofs.Text.Utf8
import IdentityConsole.Proofs.Timestamp
import IdentityConsole.Records.Field
import IdentityConsole.Records.Group
import IdentityConsole.Records.Identity
import IdentityConsole.Records.Kind
import IdentityConsole.Records.Page
import IdentityConsole.Records.Policy
import IdentityConsole.Records.Record
import IdentityConsole.Records.TokenGrant
import IdentityConsole.Records.User
import IdentityConsole.Report
import IdentityConsole.Route
import IdentityConsole.Screen.Area
import IdentityConsole.Screen.Canvas
import IdentityConsole.Screen.Content
import IdentityConsole.Screen.Line
import IdentityConsole.Screen.Overlay
import IdentityConsole.Screen.Panel
import IdentityConsole.Screen.Paragraph
import IdentityConsole.Screen.Screen
import IdentityConsole.Screen.Style
import IdentityConsole.Screen.Terminal
import IdentityConsole.Session.Error
import IdentityConsole.Session.Session
import IdentityConsole.Storage.Error
import IdentityConsole.Storage.FileStore
import IdentityConsole.Storage.Storage
import IdentityConsole.Text.Blank
import IdentityConsole.Text.Budget
import IdentityConsole.Text.CellWidth
import IdentityConsole.Text.Clip
import IdentityConsole.Text.Cluster
import IdentityConsole.Text.ClusterBreak
import IdentityConsole.Text.Hex
import IdentityConsole.Text.Percent
import IdentityConsole.Text.Quoted
import IdentityConsole.Text.Ranges
import IdentityConsole.Text.Segments
import IdentityConsole.Text.Unprintable
import IdentityConsole.Text.Utf8
import IdentityConsole.Timestamp
import IdentityConsole.Proofs.Console.Detail
import IdentityConsole.Proofs.Console.Listing
import IdentityConsole.Proofs.Console.Notice
import IdentityConsole.Proofs.Console.Saving
import IdentityConsole.Proofs.App.Press
import IdentityConsole.Proofs.App.Run
import IdentityConsole.Proofs.App.Asking
import IdentityConsole.Proofs.App.Editor
import IdentityConsole.Proofs.App.Cursor
import IdentityConsole.Proofs.Console.Fitting
import IdentityConsole.Proofs.Session.Leftover
import IdentityConsole.Proofs.Route
import IdentityConsole.Proofs.App.PathEntry
import IdentityConsole.Proofs.Console.Resemblance
import IdentityConsole.Proofs.App.Resemblance
import IdentityConsole.Proofs.App.Reopening
import IdentityConsole.Proofs.Api.Exchange
import IdentityConsole.Proofs.Storage.Failure
import IdentityConsole.Proofs.App.Progress
import IdentityConsole.Proofs.Json.Reordered
import IdentityConsole.Proofs.Json.Recovered
import IdentityConsole.Proofs.Json.Whole
import IdentityConsole.Proofs.Records.Reread
import IdentityConsole.Proofs.Records.Whole
import IdentityConsole.Proofs.Records.RoundTrip
import IdentityConsole.Proofs.Text.Budget
import IdentityConsole.Proofs.Text.Trim
import IdentityConsole.Proofs.Api.BaseAddress
import IdentityConsole.Proofs.Screen.Area
import IdentityConsole.Proofs.Screen.Confined
import IdentityConsole.Proofs.Screen.Overlay
import IdentityConsole.Proofs.Screen.Password
import IdentityConsole.Proofs.Screen.Columns
