import SignedRest.Client
import SignedRest.Config
import SignedRest.Credentials
import SignedRest.Digest.Hmac
import SignedRest.Digest.Sha256
import SignedRest.Domain
import SignedRest.Domain.Label
import SignedRest.Domain.Mapping
import SignedRest.Domain.Punycode
import SignedRest.Error
import SignedRest.Header
import SignedRest.Json
import SignedRest.Json.Document
import SignedRest.Json.Grammar
import SignedRest.Json.Reader
import SignedRest.Json.Writer
import SignedRest.Number.Digits
import SignedRest.Number.Double
import SignedRest.Number.Shortest
import SignedRest.Profile
import SignedRest.Profile.Operation
import SignedRest.Profile.Store
import SignedRest.Reply
import SignedRest.Reply.Chain
import SignedRest.Reply.ErrorDocument
import SignedRest.Reply.Metadata
import SignedRest.Request
import SignedRest.Service
import SignedRest.Ses
import SignedRest.Signing.Canonical
import SignedRest.Signing.Signature
import SignedRest.Signing.Verification
import SignedRest.Table
import SignedRest.Text.Base64
import SignedRest.Text.Blank
import SignedRest.Text.Percent
import SignedRest.Text.Quoted
import SignedRest.Text.Separated
import SignedRest.Text.Utf8
import SignedRest.Time.Civil
import SignedRest.Time.MessageDate
import SignedRest.Time.Timestamp
import SignedRest.Toml
import SignedRest.Toml.Assembly
import SignedRest.Toml.Reader
import SignedRest.Toml.Scalar
import SignedRest.Toml.Text
import SignedRest.Unicode.Combining
import SignedRest.Unicode.Composed
import SignedRest.Unicode.Direction
import SignedRest.Unicode.Joining
import SignedRest.Unicode.Mark
import SignedRest.Unicode.Shown
import SignedRest.Unicode.Span
import SignedRest.Url
import SignedRest.Url.Address
import SignedRest.Url.Encoding
import SignedRest.Url.File
import SignedRest.Url.Host
import SignedRest.Url.Reader
import SignedRest.Url.Segments
import SignedRest.Wire
import SignedRest.Wire.Answer
import SignedRest.Wire.Chunked
import SignedRest.Wire.Framing
import SignedRest.Wire.Head
import SignedRest.Wire.Message
import SignedRest.Proofs.Table
import SignedRest.Proofs.Text.Percent
import SignedRest.Proofs.Signing.Query
import SignedRest.Proofs.Text.LetterCase
import SignedRest.Proofs.Signing.Canonical
import SignedRest.Proofs.Reply.Body
import SignedRest.Proofs.Reply.Chain
import SignedRest.Proofs.Client.Outcome
import SignedRest.Proofs.Wire
import SignedRest.Proofs.Header
import SignedRest.Proofs.Signing.Signature
import SignedRest.Proofs.Signing.Coverage
import SignedRest.Proofs.Url.Delimiters
import SignedRest.Proofs.Url.Reader
import SignedRest.Proofs.Request
import SignedRest.Proofs.Signing.Verification
import SignedRest.Proofs.Reply.Release
import SignedRest.Proofs.Profile.RoundTrip
import SignedRest.Proofs.Profile.Safety
import SignedRest.Proofs.Profile.History
import SignedRest.Proofs.Client.Frame
import SignedRest.Proofs.Domain.Name
import SignedRest.Proofs.Json.Document
import SignedRest.Proofs.Json.Number
import SignedRest.Proofs.Json.Text
import SignedRest.Proofs.Service.Endpoint
import SignedRest.Proofs.Signing.Secrecy
import SignedRest.Proofs.Number.Double
import SignedRest.Proofs.Json.Literal
import SignedRest.Proofs.Reply.ErrorDocument
import SignedRest.Proofs.Json.Extension
import SignedRest.Proofs.Reply.Delivery
import SignedRest.Proofs.Reply.Truncation
import SignedRest.Proofs.Url.Push
import SignedRest.Proofs.Client.Address
import SignedRest.Proofs.Ses.Domain
import SignedRest.Proofs.Signing.Renewal
import SignedRest.Proofs.Time.Timestamp
import SignedRest.Proofs.Signing.Framing
import SignedRest.Proofs.Signing.Parameters
import SignedRest.Proofs.Signing.Path
import SignedRest.Proofs.Text.Blank
import SignedRest.Proofs.Signing.Selection
import SignedRest.Proofs.Request.Writes
import SignedRest.Proofs.Signing.Resource
import SignedRest.Proofs.Wire.Grammar
import SignedRest.Proofs.Wire.Message
import SignedRest.Proofs.Wire.Headers
import SignedRest.Proofs.Time.SigningText
import SignedRest.Proofs.Json.RoundTrip
import SignedRest.Proofs.Reply.Payload
import SignedRest.Proofs.Ses.Record
