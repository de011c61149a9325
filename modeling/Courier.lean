import Courier.Api
import Courier.Api.Verdict
import Courier.Binary64
import Courier.Bytes
import Courier.Call
import Courier.CallError
import Courier.Codec
import Courier.Command
import Courier.CommandLine
import Courier.CommandLine.Help
import Courier.Config
import Courier.Config.Layers
import Courier.Config.Record
import Courier.Console
import Courier.Cookie
import Courier.Cookie.Date
import Courier.Cookie.Jar
import Courier.Decimal.Reader
import Courier.Decimal.Shortest
import Courier.Disk
import Courier.Envelope
import Courier.Extension
import Courier.Failure
import Courier.Fields
import Courier.Http.Arrival
import Courier.Http.Chunks
import Courier.Http.Head
import Courier.Http.Message
import Courier.Http.Uri
import Courier.Http.Written
import Courier.Instant
import Courier.Json
import Courier.Json.Fault
import Courier.Json.Printer
import Courier.Json.Reader
import Courier.Json.Skip
import Courier.Main
import Courier.MessagePack.Notation
import Courier.MessagePack.Object
import Courier.MessagePack.Reader
import Courier.MessagePack.Writer
import Courier.Method
import Courier.Net.Address
import Courier.Payload
import Courier.Program
import Courier.Proofs.Api.Verdict
import Courier.Proofs.Codec.RoundTrip
import Courier.Proofs.Fields
import Courier.Proofs.MessagePack.ReadBack
import Courier.Proofs.Session.History
import Courier.Proofs.Session.LoginMark
import Courier.Proofs.Session.OneDialog
import Courier.Proofs.Session.Orderly
import Courier.Proofs.Session.Step
import Courier.Proofs.Session.Turn
import Courier.Proofs.Session.Turnstile
import Courier.Proofs.Timestamp
import Courier.QueryEncoding
import Courier.Session
import Courier.Session.Dispatch
import Courier.Session.Workload
import Courier.Site
import Courier.Site.Record
import Courier.Terminal
import Courier.Text.Base32
import Courier.Text.Base64
import Courier.Text.Blank
import Courier.Text.Case
import Courier.Text.CaseTable
import Courier.Text.Hex
import Courier.Text.HiddenTable
import Courier.Text.Integer
import Courier.Text.Line
import Courier.Text.Lossy
import Courier.Text.Paint
import Courier.Text.Quoted
import Courier.Timestamp
import Courier.Tls.Certificate
import Courier.Tls.Connector
import Courier.Tls.Der
import Courier.Tls.Pem
import Courier.Tls.PrivateKey
import Courier.Tls.Refusal
import Courier.Tls.ServerName
import Courier.Transport
import Courier.TransportError
import Courier.Url
import Courier.Url.Host
import Courier.Value
import Courier.WireError
import Courier.Yaml.Cursor
import Courier.Yaml.Node
import Courier.Yaml.Plain
import Courier.Yaml.Printer
import Courier.Yaml.Scalar
import Courier.Yaml.Tag
import Courier.Yaml.Token
import Courier.Proofs.Session.Coalescing
import Courier.Proofs.Api.Outgoing
import Courier.Proofs.Session.Solo
import Courier.Proofs.Session.Course
import Courier.Proofs.Session.Notices
import Courier.Proofs.Session.Withheld
import Courier.Proofs.Program.Told
import Courier.Proofs.Session.Resend
import Courier.Proofs.Session.Indicator
import Courier.Proofs.MessagePack.Accepted
import Courier.Proofs.Codec.Normal
import Courier.Proofs.MessagePack.Delimited
import Courier.Proofs.Codec.Layer
import Courier.Proofs.Text.Base32
import Courier.Proofs.QueryEncoding
import Courier.Proofs.Api.Carried
import Courier.Proofs.Text.Blank
import Courier.Proofs.Text.Case
import Courier.Proofs.Console
import Courier.Proofs.Program.InStep
import Courier.Proofs.Text.Groups
import Courier.Proofs.Json.Reader
import Courier.Proofs.Payload
import Courier.Proofs.Program.Preview
import Courier.Proofs.Timestamp.Rounding
import Courier.Proofs.Envelope
import Courier.Proofs.Config
import Courier.Proofs.Http.Uri
import Courier.Proofs.Http.RequestLine
import Courier.Proofs.Json.ReadBack
import Courier.Proofs.Payload.Display
import Courier.Proofs.Tls.Connector
import Courier.Proofs.Transport.Sequence
import Courier.Proofs.Transport.Cookies
import Courier.Proofs.Session.Sent
import Courier.Proofs.Transport.Scheme
import Courier.Proofs.Extension
import Courier.Proofs.Codec.Routing
import Courier.Proofs.Api.BaseUrl
import Courier.Proofs.Json.Skip
import Courier.Proofs.Json.Glance
import Courier.Proofs.Site.Record
