import LineRpc.Base64
import LineRpc.Callable
import LineRpc.Client
import LineRpc.Codec.Capabilities
import LineRpc.Codec.Decode
import LineRpc.Codec.Encode
import LineRpc.CommandLine.Options
import LineRpc.CommandLine.Program
import LineRpc.Dtype
import LineRpc.Envelope.Request
import LineRpc.Envelope.Response
import LineRpc.Failure
import LineRpc.FileTree
import LineRpc.Frame
import LineRpc.Json.Basic
import LineRpc.Json.Display
import LineRpc.Json.Parser
import LineRpc.Json.Printer
import LineRpc.Json.Token
import LineRpc.Library.Arguments
import LineRpc.Library.Arrays
import LineRpc.Library.General
import LineRpc.Library.Math
import LineRpc.Library.Standard
import LineRpc.Library.Tables
import LineRpc.Log.Basic
import LineRpc.Log.Document
import LineRpc.Log.Entry
import LineRpc.Log.Message
import LineRpc.Main
import LineRpc.Mapping
import LineRpc.Module
import LineRpc.NDArray.Basic
import LineRpc.NDArray.Error
import LineRpc.NDArray.Nested
import LineRpc.Notation.Module
import LineRpc.Notation.Reader
import LineRpc.Notation.Writer
import LineRpc.Number.Counter
import LineRpc.Number.Exact
import LineRpc.Number.Exponential
import LineRpc.Number.Logarithm
import LineRpc.Number.Printer
import LineRpc.Number.Shortest
import LineRpc.Number.Tangent
import LineRpc.Octets
import LineRpc.Path
import LineRpc.Registry
import LineRpc.Schema
import LineRpc.Session
import LineRpc.Settings.Basic
import LineRpc.Settings.Environment
import LineRpc.Settings.File
import LineRpc.Text.Blank
import LineRpc.Text.CodePoints
import LineRpc.Text.Collation
import LineRpc.Text.Collation.Ideographs
import LineRpc.Text.Collation.Order
import LineRpc.Text.Collation.Variants
import LineRpc.Text.Decomposition
import LineRpc.Text.Duplicates
import LineRpc.Text.Lines
import LineRpc.Text.Quoted
import LineRpc.Text.Units
import LineRpc.Text.Utf8
import LineRpc.Value.Basic
import LineRpc.Value.Number
import LineRpc.Value.Text
import LineRpc.Worker
import LineRpc.Proofs.Base64
import LineRpc.Proofs.Base64.Strict
import LineRpc.Proofs.Client
import LineRpc.Proofs.Client.Framing
import LineRpc.Proofs.Client.Replies
import LineRpc.Proofs.Codec.Arrival
import LineRpc.Proofs.Codec.Degraded
import LineRpc.Proofs.Codec.Elements
import LineRpc.Proofs.Codec.Failing
import LineRpc.Proofs.Codec.Grammar
import LineRpc.Proofs.Codec.Keys
import LineRpc.Proofs.Codec.Labels
import LineRpc.Proofs.Codec.NormalForm
import LineRpc.Proofs.Codec.Numbers
import LineRpc.Proofs.Codec.Payload
import LineRpc.Proofs.Codec.Received
import LineRpc.Proofs.Codec.Restriction
import LineRpc.Proofs.Codec.RoundTrip
import LineRpc.Proofs.Dtype
import LineRpc.Proofs.Dtype.Integers
import LineRpc.Proofs.Dtype.Storage
import LineRpc.Proofs.Dtype.Stored
import LineRpc.Proofs.Envelope.Request
import LineRpc.Proofs.Except
import LineRpc.Proofs.Frame
import LineRpc.Proofs.Frame.Records
import LineRpc.Proofs.Json.Everywhere
import LineRpc.Proofs.Json.Line
import LineRpc.Proofs.Json.ReadBack
import LineRpc.Proofs.Json.Scan
import LineRpc.Proofs.Json.Strings
import LineRpc.Proofs.Library.Answers
import LineRpc.Proofs.Library.Arguments
import LineRpc.Proofs.Library.Columns
import LineRpc.Proofs.Library.Divisors
import LineRpc.Proofs.Library.Factorial
import LineRpc.Proofs.Library.Interleaved
import LineRpc.Proofs.Library.Results
import LineRpc.Proofs.Mapping
import LineRpc.Proofs.Mapping.Index
import LineRpc.Proofs.Mapping.Lookup
import LineRpc.Proofs.Mapping.Order
import LineRpc.Proofs.Module
import LineRpc.Proofs.NDArray
import LineRpc.Proofs.NDArray.Acceptance
import LineRpc.Proofs.NDArray.Exact
import LineRpc.Proofs.NDArray.Nested
import LineRpc.Proofs.NDArray.Places
import LineRpc.Proofs.NDArray.Product
import LineRpc.Proofs.NDArray.Rectangular
import LineRpc.Proofs.NDArray.Transpose
import LineRpc.Proofs.NDArray.Views
import LineRpc.Proofs.Number.Counter
import LineRpc.Proofs.Number.Dyadic
import LineRpc.Proofs.Number.Integers
import LineRpc.Proofs.Number.Magnitude
import LineRpc.Proofs.Number.Nearest
import LineRpc.Proofs.Number.Packed
import LineRpc.Proofs.Number.ReadBack
import LineRpc.Proofs.Number.Rounding
import LineRpc.Proofs.Number.Safe
import LineRpc.Proofs.Number.Shortest
import LineRpc.Proofs.Number.Single
import LineRpc.Proofs.Number.Sum
import LineRpc.Proofs.Number.Whole
import LineRpc.Proofs.Registry
import LineRpc.Proofs.Session
import LineRpc.Proofs.Settings
import LineRpc.Proofs.Text.Blank
import LineRpc.Proofs.Text.Folding
import LineRpc.Proofs.Text.Lines
import LineRpc.Proofs.Text.Utf8
import LineRpc.Proofs.Value.Reach
import LineRpc.Proofs.Value.Sound
import LineRpc.Proofs.Worker.Calls
import LineRpc.Proofs.Worker.Failures
