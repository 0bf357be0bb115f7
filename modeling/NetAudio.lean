import NetAudio.ChannelMap
import NetAudio.Client.Exchange
import NetAudio.Client.Rest
import NetAudio.Clock
import NetAudio.Codec
import NetAudio.Console.File
import NetAudio.Console.Settings
import NetAudio.Daemon.Call
import NetAudio.Daemon.IdTable
import NetAudio.Daemon.Memory
import NetAudio.Daemon.Settings
import NetAudio.Daemon.Status
import NetAudio.Dscp
import NetAudio.Error
import NetAudio.Form.EditForm
import NetAudio.Form.SettingsChecks
import NetAudio.Form.StreamChecks
import NetAudio.Form.Validation
import NetAudio.Http.MediaType
import NetAudio.Http.Message
import NetAudio.Http.Query
import NetAudio.Json.Basic
import NetAudio.Json.Reader
import NetAudio.Json.Record
import NetAudio.Json.Token
import NetAudio.Json.Writer
import NetAudio.Main
import NetAudio.Net.Address
import NetAudio.Packet
import NetAudio.Poll.Poller
import NetAudio.Report
import NetAudio.SampleRate
import NetAudio.Service.Endpoint
import NetAudio.Service.Input
import NetAudio.Service.Listener
import NetAudio.Service.Router
import NetAudio.Service.StaticFiles
import NetAudio.Stream
import NetAudio.Stream.Sink
import NetAudio.Stream.Source
import NetAudio.Text.Bytes
import NetAudio.Text.Decimal
import NetAudio.Text.Parts
import NetAudio.Toml.Basic
import NetAudio.Toml.Quoted
import NetAudio.Toml.Reader
import NetAudio.Toml.Tree
import NetAudio.Toml.Word
import NetAudio.Toml.Writer
import NetAudio.Url.Authority
import NetAudio.Url.Basic
import NetAudio.Url.Domain
import NetAudio.Url.DomainTable
import NetAudio.Url.Number
import NetAudio.Url.Punycode
import NetAudio.Url.Target
import NetAudio.Wire.Console
import NetAudio.Wire.Daemon
import NetAudio.Wire.Form
import NetAudio.Wire.Stream
import NetAudio.Wire.Words
import NetAudio.Proofs.ChannelMap.Lists
import NetAudio.Proofs.ChannelMap.Words
import NetAudio.Proofs.ChannelMap.Bank
import NetAudio.Proofs.Form.Run
import NetAudio.Proofs.Packet.Limits
import NetAudio.Proofs.Form.Checks
import NetAudio.Proofs.Form.Lifecycle
import NetAudio.Proofs.Stream.Records
import NetAudio.Proofs.Stream.Retraction
import NetAudio.Proofs.Stream.Identity
import NetAudio.Proofs.Form.Submission
import NetAudio.Proofs.Daemon.Run
import NetAudio.Proofs.Daemon.Streams
import NetAudio.Proofs.Session.Submit
import NetAudio.Proofs.Session.Unedited
import NetAudio.Proofs.Session.NewStream
import NetAudio.Proofs.Daemon.Failure
import NetAudio.Proofs.Daemon.History
import NetAudio.Proofs.Form.Selectors
import NetAudio.Proofs.Session.Site
import NetAudio.Proofs.Session.Interleaving
import NetAudio.Proofs.Text.Digits
import NetAudio.Proofs.Json.Text
import NetAudio.Proofs.Json.Records
import NetAudio.Proofs.Wire.Words
import NetAudio.Proofs.Wire.Documents
import NetAudio.Proofs.Json.Parallel
import NetAudio.Proofs.Wire.Drafts
import NetAudio.Proofs.Text.Parts
import NetAudio.Proofs.Client.Paths
import NetAudio.Proofs.Client.Answers
import NetAudio.Proofs.Client.Requests
import NetAudio.Proofs.Client.Server
import NetAudio.Proofs.Json.Tolerance
import NetAudio.Proofs.Wire.Tolerance
import NetAudio.Proofs.Daemon.Settings
import NetAudio.Proofs.Session.Defaults
import NetAudio.Proofs.Url.Extension
import NetAudio.Proofs.Console.DefaultSink
import NetAudio.Proofs.Poll.Run
import NetAudio.Proofs.Poll.Owner
import NetAudio.Proofs.Poll.Pace
import NetAudio.Proofs.Console.Spelling
import NetAudio.Proofs.Console.SettingsFile
import NetAudio.Proofs.Poll.Cancellation
import NetAudio.Proofs.Service.Answers
import NetAudio.Proofs.Lookup
import NetAudio.Proofs.Net.Ipv4
import NetAudio.Proofs.Form.Findings
import NetAudio.Proofs.Form.SourceFaults
import NetAudio.Proofs.Form.SettingsFaults
import NetAudio.Proofs.Form.SinkFaults
import NetAudio.Proofs.Toml.Names
import NetAudio.Proofs.Console.PartialFile
import NetAudio.Proofs.Session.Refusals
import NetAudio.Proofs.ChannelMap.Edits
import NetAudio.Proofs.Form.Setters
import NetAudio.Proofs.Form.Capacity
import NetAudio.Proofs.Packet.Optimum
import NetAudio.Proofs.Packet.Options
import NetAudio.Proofs.Packet.Policies
import NetAudio.Proofs.Daemon.SinkStatus
import NetAudio.Proofs.Report.Printing
import NetAudio.Proofs.Report.Runs
import NetAudio.Proofs.Report.Forms
