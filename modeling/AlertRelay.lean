import AlertRelay.Alert.Delivery
import AlertRelay.Assoc
import AlertRelay.Attachment.Action
import AlertRelay.Attachment.Actor
import AlertRelay.Attachment.Assembly
import AlertRelay.Attachment.Assignees
import AlertRelay.Attachment.Event
import AlertRelay.Attachment.IncidentAttachment
import AlertRelay.Attachment.IssueAttachment
import AlertRelay.Attachment.Payload
import AlertRelay.Background
import AlertRelay.Channel.Job
import AlertRelay.Channel.Kind
import AlertRelay.Channel.Listing
import AlertRelay.Channel.Lookup
import AlertRelay.Channel.Page
import AlertRelay.Channel.Resolution
import AlertRelay.Channel.Search
import AlertRelay.Config
import AlertRelay.Database.Access
import AlertRelay.Database.Query
import AlertRelay.ExpiringMap
import AlertRelay.Failure
import AlertRelay.Instant
import AlertRelay.Integration.Basic
import AlertRelay.Integration.Stored
import AlertRelay.Link
import AlertRelay.Log.Line
import AlertRelay.Log.RequestLevel
import AlertRelay.Log.Sanitized
import AlertRelay.Log.Secret
import AlertRelay.Number.Double
import AlertRelay.Number.OfText
import AlertRelay.Number.Reading
import AlertRelay.Number.Shortest
import AlertRelay.Preference.Basic
import AlertRelay.Preference.Legacy
import AlertRelay.Preference.MemoryStore
import AlertRelay.Preference.Service
import AlertRelay.Preference.Statement
import AlertRelay.Preference.Store
import AlertRelay.Preference.Write
import AlertRelay.Program.Basic
import AlertRelay.Program.Turn
import AlertRelay.Proofs.Alert.Delivery
import AlertRelay.Proofs.Attachment.Identities
import AlertRelay.Proofs.Attachment.Picker
import AlertRelay.Proofs.Config.Times
import AlertRelay.Proofs.Database.Queries
import AlertRelay.Proofs.Database.Session
import AlertRelay.Proofs.Database.Tables
import AlertRelay.Proofs.Database.Transaction
import AlertRelay.Proofs.ExpiringMap.History
import AlertRelay.Proofs.Link.Addresses
import AlertRelay.Proofs.Link.Hiding
import AlertRelay.Proofs.Link.Paths
import AlertRelay.Proofs.Log.Credentials
import AlertRelay.Proofs.Log.Marks
import AlertRelay.Proofs.Log.Meetings
import AlertRelay.Proofs.Log.Proper
import AlertRelay.Proofs.Log.Readings
import AlertRelay.Proofs.Log.Records
import AlertRelay.Proofs.Log.Scrubbing
import AlertRelay.Proofs.Log.Secrets
import AlertRelay.Proofs.Log.Shown
import AlertRelay.Proofs.Log.Units
import AlertRelay.Proofs.Lookup.Classification
import AlertRelay.Proofs.Lookup.Draining
import AlertRelay.Proofs.Lookup.Entries
import AlertRelay.Proofs.Lookup.Jobs
import AlertRelay.Proofs.Lookup.Retention
import AlertRelay.Proofs.Lookup.Scene
import AlertRelay.Proofs.Lookup.Steps
import AlertRelay.Proofs.Lookup.Turns
import AlertRelay.Proofs.Number.Decimal
import AlertRelay.Proofs.Number.Digits
import AlertRelay.Proofs.Number.Grammar
import AlertRelay.Proofs.Number.Literals
import AlertRelay.Proofs.Number.Order
import AlertRelay.Proofs.Number.Rounding
import AlertRelay.Proofs.Number.Written
import AlertRelay.Proofs.Preference.Addressing
import AlertRelay.Proofs.Preference.Agreement
import AlertRelay.Proofs.Preference.Atomicity
import AlertRelay.Proofs.Preference.Carrying
import AlertRelay.Proofs.Preference.Change
import AlertRelay.Proofs.Preference.Commands
import AlertRelay.Proofs.Preference.Counterparts
import AlertRelay.Proofs.Preference.Erasure
import AlertRelay.Proofs.Preference.LastCalls
import AlertRelay.Proofs.Preference.OptionKeys
import AlertRelay.Proofs.Preference.OptionValues
import AlertRelay.Proofs.Preference.Plan
import AlertRelay.Proofs.Preference.RowNames
import AlertRelay.Proofs.Preference.Rows
import AlertRelay.Proofs.Preference.Tables
import AlertRelay.Proofs.Preference.Transacting
import AlertRelay.Proofs.Program.Asked
import AlertRelay.Proofs.Program.Carried
import AlertRelay.Proofs.Program.Execution
import AlertRelay.Proofs.Program.Turns
import AlertRelay.Proofs.Program.Within
import AlertRelay.Proofs.Releases.Scene
import AlertRelay.Proofs.Releases.Staleness
import AlertRelay.Proofs.Request.Bodies
import AlertRelay.Proofs.Request.Updates
import AlertRelay.Proofs.Search.Deadline
import AlertRelay.Proofs.Search.Ending
import AlertRelay.Proofs.Search.Fetches
import AlertRelay.Proofs.Search.Identities
import AlertRelay.Proofs.Search.Nameless
import AlertRelay.Proofs.Search.Namesakes
import AlertRelay.Proofs.Search.Paging
import AlertRelay.Proofs.Search.Replies
import AlertRelay.Proofs.Server.StoreRequests
import AlertRelay.Proofs.Slack.Containment
import AlertRelay.Proofs.Text.Letters
import AlertRelay.Proofs.Text.Runs
import AlertRelay.Proofs.Tokens.Alike
import AlertRelay.Proofs.Tokens.Programs
import AlertRelay.Proofs.Tokens.Scene
import AlertRelay.Proofs.Tokens.Server
import AlertRelay.Proofs.Tokens.Unconcerned
import AlertRelay.Proofs.Value.Display
import AlertRelay.Proofs.Value.Listing
import AlertRelay.Proofs.Value.Quoted
import AlertRelay.Proofs.Value.Reader
import AlertRelay.Rehearsal
import AlertRelay.Request.Forms
import AlertRelay.Request.Shape
import AlertRelay.Schema
import AlertRelay.Server
import AlertRelay.Slack.ApiError
import AlertRelay.Slack.Call
import AlertRelay.Text.Blank
import AlertRelay.Text.CaseTable
import AlertRelay.Text.CodeTable
import AlertRelay.Text.Composition
import AlertRelay.Text.CompositionTable
import AlertRelay.Text.Direction
import AlertRelay.Text.DirectionTable
import AlertRelay.Text.Joining
import AlertRelay.Text.JoiningTable
import AlertRelay.Text.LowerCase
import AlertRelay.Text.Percent
import AlertRelay.Text.Units
import AlertRelay.Text.Utf8
import AlertRelay.Value.Basic
import AlertRelay.Value.Display
import AlertRelay.Value.Graph
import AlertRelay.Value.Json
import AlertRelay.Value.KeyOrder
import AlertRelay.Value.Quoted
import AlertRelay.Web.Body
import AlertRelay.Web.Domain
import AlertRelay.Web.DomainTable
import AlertRelay.Web.Exchange
import AlertRelay.Web.FormQuery
import AlertRelay.Web.Host
import AlertRelay.Web.Location
import AlertRelay.Web.MediaType
import AlertRelay.Web.Origin
import AlertRelay.Web.Punycode
import AlertRelay.Web.QueryFields
import AlertRelay.Web.Route
