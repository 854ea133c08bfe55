import SipCodec.Text.Bytes
import SipCodec.Text.Utf8
import SipCodec.Text.CaseTable
import SipCodec.Text.Printable
import SipCodec.Text.Case
import SipCodec.Text.Literal
import SipCodec.Data.Json
import SipCodec.Error
import SipCodec.Text.Numeral
import SipCodec.Text.Percent
import SipCodec.Text.Lexical
import SipCodec.Grammar.Node
import SipCodec.Grammar.Rules
import SipCodec.Inspect.Basic
import SipCodec.Inspect.Grammar
import SipCodec.Text.Space
import SipCodec.Scalar.Method
import SipCodec.Scalar.Version
import SipCodec.Scalar.Scheme
import SipCodec.Scalar.Transport
import SipCodec.Scalar.Status
import SipCodec.Scalar.HeaderName
import SipCodec.Auth.Algorithm
import SipCodec.Inspect.Scalar
import SipCodec.Text.Template
import SipCodec.Inspect.Errors
import SipCodec.Net.IpAddr
import SipCodec.Net.DomainName
import SipCodec.Number.BinaryFloat
import SipCodec.Uri.Host
import SipCodec.Uri.Userinfo
import SipCodec.Uri.Param
import SipCodec.Uri.Basic
import SipCodec.Uri.Reader
import SipCodec.Uri.WithParams
import SipCodec.Inspect.Uri
import SipCodec.Typed.Scan
import SipCodec.Typed.NameAddr
import SipCodec.Typed.Via
import SipCodec.Typed.AuthParams
import SipCodec.Typed.Credentials
import SipCodec.Typed.Challenge
import SipCodec.Typed.Media
import SipCodec.Typed.Words
import SipCodec.Typed.Warning
import SipCodec.Typed.Timing
import SipCodec.Time.Civil
import SipCodec.Time.Layout
import SipCodec.Typed.Date
import SipCodec.Number.Shortest
import SipCodec.Typed.Header
import SipCodec.Inspect.Typed
import SipCodec.Header.Field
import SipCodec.Header.Line
import SipCodec.Header.List
import SipCodec.Header.Json
import SipCodec.Inspect.Header
import SipCodec.Message.StartLine
import SipCodec.Message.Basic
import SipCodec.Message.Reader
import SipCodec.Message.Response
import SipCodec.Inspect.Message
import SipCodec.Inspect.Compare
import SipCodec.Inspect.Render
import SipCodec.Log.Record
import SipCodec.Message.Decoder
import SipCodec.Inspect.Decoder
import SipCodec.Inspect.Probe
import SipCodec.Hash.Block
import SipCodec.Hash.Md5
import SipCodec.Hash.Sha256
import SipCodec.Hash.Sha512
import SipCodec.Auth.Digest
import SipCodec.Inspect.Digest
import SipCodec.Inspect.Service
import SipCodec.Proofs.Grammar.Matches
import SipCodec.Proofs.Header.LineCut
import SipCodec.Proofs.Message.HeadCut
import SipCodec.Proofs.Message.HardFaults
import SipCodec.Proofs.Decoder.Invariant
import SipCodec.Proofs.Decoder.ContentLength
import SipCodec.Proofs.Message.HeadPrefix
import SipCodec.Proofs.Decoder.Chunking
import SipCodec.Proofs.Text.Folding
import SipCodec.Proofs.Uri.Equality
import SipCodec.Proofs.Typed.Equality
import SipCodec.Proofs.Text.Lexical
import SipCodec.Proofs.Auth.Params
import SipCodec.Proofs.Auth.Agreement
import SipCodec.Proofs.Faults.Expected
import SipCodec.Proofs.Faults.Typed
import SipCodec.Proofs.Grammar.Lookup
import SipCodec.Proofs.Faults.Codec
import SipCodec.Proofs.Text.Trim
import SipCodec.Proofs.Header.Names
import SipCodec.Proofs.Message.Respond
import SipCodec.Proofs.Text.Writer
import SipCodec.Proofs.Message.Writes
import SipCodec.Proofs.Header.Accessors
import SipCodec.Proofs.Text.Percent
import SipCodec.Proofs.Decoder.Progress
import SipCodec.Proofs.Decoder.Accounting
import SipCodec.Proofs.Text.Utf8
import SipCodec.Proofs.Text.QuotedString
import SipCodec.Proofs.Text.Quoting
import SipCodec.Proofs.Grammar.Written
import SipCodec.Proofs.Net.AddressText
import SipCodec.Proofs.Uri.Server
import SipCodec.Proofs.Uri.Parts
import SipCodec.Proofs.Uri.Reading
import SipCodec.Proofs.Uri.RoundTrip
import SipCodec.Proofs.Uri.WithParams
