import ProxyTrial.Client.Agent
import ProxyTrial.Client.Exchange
import ProxyTrial.Client.Incoming
import ProxyTrial.Client.Outgoing
import ProxyTrial.CommandLine.Arguments
import ProxyTrial.CommandLine.Invocation
import ProxyTrial.CommandLine.Session
import ProxyTrial.Config
import ProxyTrial.Config.File
import ProxyTrial.Decimal.Numeral
import ProxyTrial.Decimal.Shortest
import ProxyTrial.Deflate.Block
import ProxyTrial.Deflate.Container
import ProxyTrial.Deflate.PrefixCode
import ProxyTrial.Files.Path
import ProxyTrial.Files.System
import ProxyTrial.Files.TextFile
import ProxyTrial.Http.Body
import ProxyTrial.Http.Charset
import ProxyTrial.Http.CodePage
import ProxyTrial.Http.ContentCoding
import ProxyTrial.Http.ContentType
import ProxyTrial.Http.HeaderSection
import ProxyTrial.Http.Headers
import ProxyTrial.Http.HostName
import ProxyTrial.Http.IpAddress
import ProxyTrial.Http.PercentEncoding
import ProxyTrial.Http.RequestHead
import ProxyTrial.Http.Status
import ProxyTrial.Http.Target
import ProxyTrial.Http.Url
import ProxyTrial.Http.Wire
import ProxyTrial.Main
import ProxyTrial.Message
import ProxyTrial.Origin.Answer
import ProxyTrial.Origin.Conversation
import ProxyTrial.Origin.Routing
import ProxyTrial.Origin.Server
import ProxyTrial.Pattern.Casing
import ProxyTrial.Pattern.Error
import ProxyTrial.Pattern.Parse
import ProxyTrial.Pattern.Reader
import ProxyTrial.Pattern.Search
import ProxyTrial.Pattern.Tree
import ProxyTrial.Proofs.Ascii
import ProxyTrial.Proofs.Basic
import ProxyTrial.Proofs.Client.Address
import ProxyTrial.Proofs.Client.Failure
import ProxyTrial.Proofs.Client.Incoming
import ProxyTrial.Proofs.Client.Outgoing
import ProxyTrial.Proofs.Client.Redirect
import ProxyTrial.Proofs.CommandLine.Arguments
import ProxyTrial.Proofs.CommandLine.Check
import ProxyTrial.Proofs.CommandLine.Request
import ProxyTrial.Proofs.CommandLine.Running
import ProxyTrial.Proofs.Config.File
import ProxyTrial.Proofs.Config.Lawful
import ProxyTrial.Proofs.Files.LineEnds
import ProxyTrial.Proofs.Files.Refusal
import ProxyTrial.Proofs.Files.System
import ProxyTrial.Proofs.Files.Writing
import ProxyTrial.Proofs.Http.Body
import ProxyTrial.Proofs.Http.Chunking
import ProxyTrial.Proofs.Http.Chunks
import ProxyTrial.Proofs.Http.HeaderSection
import ProxyTrial.Proofs.Http.Headers
import ProxyTrial.Proofs.Http.Lookup
import ProxyTrial.Proofs.Http.RequestHead
import ProxyTrial.Proofs.Http.Url
import ProxyTrial.Proofs.Http.Wire
import ProxyTrial.Proofs.Origin.Answer
import ProxyTrial.Proofs.Origin.Answered
import ProxyTrial.Proofs.Origin.Decoding
import ProxyTrial.Proofs.Origin.Framing
import ProxyTrial.Proofs.Origin.HostField
import ProxyTrial.Proofs.Origin.Judging
import ProxyTrial.Proofs.Origin.KeepAlive
import ProxyTrial.Proofs.Origin.Lifecycle
import ProxyTrial.Proofs.Origin.Query
import ProxyTrial.Proofs.Origin.Recording
import ProxyTrial.Proofs.Origin.Remainder
import ProxyTrial.Proofs.Origin.Routing
import ProxyTrial.Proofs.Origin.Snapshot
import ProxyTrial.Proofs.Run.Answers
import ProxyTrial.Proofs.Run.Delivery
import ProxyTrial.Proofs.Run.Outcome
import ProxyTrial.Proofs.Run.Ownership
import ProxyTrial.Proofs.Run.Placeholders
import ProxyTrial.Proofs.Run.Readiness
import ProxyTrial.Proofs.Run.Release
import ProxyTrial.Proofs.Run.Reply
import ProxyTrial.Proofs.Run.Requests
import ProxyTrial.Proofs.Run.RunRoot
import ProxyTrial.Proofs.Run.Simulation
import ProxyTrial.Proofs.Run.Targets
import ProxyTrial.Proofs.Run.Verdict
import ProxyTrial.Proofs.Run.Waiting
import ProxyTrial.Proofs.Schema.Data
import ProxyTrial.Proofs.Schema.Expectation
import ProxyTrial.Proofs.Script.Alike
import ProxyTrial.Proofs.Script.Command
import ProxyTrial.Proofs.Script.Concatenation
import ProxyTrial.Proofs.Script.Cursor
import ProxyTrial.Proofs.Script.FirstFault
import ProxyTrial.Proofs.Script.Flags
import ProxyTrial.Proofs.Script.Grammar
import ProxyTrial.Proofs.Script.Layout
import ProxyTrial.Proofs.Script.Lexing
import ProxyTrial.Proofs.Script.Limits
import ProxyTrial.Proofs.Script.LineEnds
import ProxyTrial.Proofs.Script.Prefix
import ProxyTrial.Proofs.Script.Prompt
import ProxyTrial.Proofs.Script.Readers
import ProxyTrial.Proofs.Script.Recognition
import ProxyTrial.Proofs.Script.Rendering
import ProxyTrial.Proofs.Script.RoundTrip
import ProxyTrial.Proofs.Script.Symbol
import ProxyTrial.Proofs.Script.Tiling
import ProxyTrial.Proofs.Script.Verbatim
import ProxyTrial.Proofs.Script.WellFormed
import ProxyTrial.Proofs.Text
import ProxyTrial.Proofs.Utf8
import ProxyTrial.Proofs.Verdict
import ProxyTrial.Proofs.Yaml.Composing
import ProxyTrial.Proofs.Yaml.Cursor
import ProxyTrial.Proofs.Yaml.Scanning
import ProxyTrial.Proofs.Yaml.Value
import ProxyTrial.Run.Machine
import ProxyTrial.Run.Program
import ProxyTrial.Run.Proxy
import ProxyTrial.Run.Wait
import ProxyTrial.Schema.Complaint
import ProxyTrial.Schema.Report
import ProxyTrial.Schema.Scalar
import ProxyTrial.Script.Basic
import ProxyTrial.Script.Command
import ProxyTrial.Script.Error
import ProxyTrial.Script.File
import ProxyTrial.Script.Lexeme
import ProxyTrial.Script.Model
import ProxyTrial.Script.Parse
import ProxyTrial.Script.Token
import ProxyTrial.Script.TokenStream
import ProxyTrial.Script.Written
import ProxyTrial.Text.Base64
import ProxyTrial.Text.Blank
import ProxyTrial.Text.CharacterName
import ProxyTrial.Text.CodeRanges
import ProxyTrial.Text.Identifier
import ProxyTrial.Text.Integer
import ProxyTrial.Text.Letter
import ProxyTrial.Text.Lower
import ProxyTrial.Text.Narrow
import ProxyTrial.Text.Printable
import ProxyTrial.Text.Punycode
import ProxyTrial.Text.Quoted
import ProxyTrial.Text.Utf8
import ProxyTrial.Value
import ProxyTrial.Verdict
import ProxyTrial.Yaml.Cursor
import ProxyTrial.Yaml.Data
import ProxyTrial.Yaml.Fault
import ProxyTrial.Yaml.Kind
import ProxyTrial.Yaml.Node
import ProxyTrial.Yaml.Number
import ProxyTrial.Yaml.Property
import ProxyTrial.Yaml.Scalar
import ProxyTrial.Yaml.Timestamp
import ProxyTrial.Yaml.Token
