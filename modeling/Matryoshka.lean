import Matryoshka.Cache
import Matryoshka.Counters
import Matryoshka.Decimal.Shortest
import Matryoshka.Engine
import Matryoshka.Failure
import Matryoshka.Grid
import Matryoshka.Http.Exchange
import Matryoshka.Http.Request
import Matryoshka.Http.Response
import Matryoshka.Json.Cursor
import Matryoshka.Json.Number
import Matryoshka.Json.Print
import Matryoshka.Json.Quoted
import Matryoshka.Json.Read
import Matryoshka.Json.Record
import Matryoshka.Json.Skip
import Matryoshka.Json.Value
import Matryoshka.KeyedHash
import Matryoshka.Loader
import Matryoshka.Main
import Matryoshka.Mock
import Matryoshka.Model
import Matryoshka.ModelFiles
import Matryoshka.Pooling
import Matryoshka.Scalar
import Matryoshka.Server.Address
import Matryoshka.Server.Configuration
import Matryoshka.Server.Launch
import Matryoshka.Service.Caller
import Matryoshka.Service.Drive
import Matryoshka.Service.Event
import Matryoshka.Service.Labor
import Matryoshka.Service.Limits
import Matryoshka.Service.Rehearsal
import Matryoshka.Service.State
import Matryoshka.Service.Step
import Matryoshka.Service.Trial
import Matryoshka.Service.View
import Matryoshka.Service.Work
import Matryoshka.Settings
import Matryoshka.Status
import Matryoshka.Tensor
import Matryoshka.Text.Blank
import Matryoshka.Text.Quoted
import Matryoshka.Text.SmallLetter
import Matryoshka.Text.WordChar
import Matryoshka.TokenBatch
import Matryoshka.Tokenizer.Added
import Matryoshka.Tokenizer.Cut
import Matryoshka.Tokenizer.Decoder
import Matryoshka.Tokenizer.Fields
import Matryoshka.Tokenizer.File
import Matryoshka.Tokenizer.Lengths
import Matryoshka.Tokenizer.Template
import Matryoshka.Tokenizer.WordLevel
import Matryoshka.Toml.Document
import Matryoshka.Toml.Moment
import Matryoshka.Toml.Number
import Matryoshka.Toml.Scan
import Matryoshka.Toml.Text
import Matryoshka.Toml.Value
import Matryoshka.Vector
import Matryoshka.Wire.Catalogue
import Matryoshka.Wire.EmbedRequest
import Matryoshka.Wire.EmbedResponse
import Matryoshka.Wire.ErrorResponse
import Matryoshka.Wire.Health
import Matryoshka.Wire.Stats
import Matryoshka.Proofs.Cache.Inclusion
import Matryoshka.Proofs.Cache.Recency
import Matryoshka.Proofs.Engine.Batching
import Matryoshka.Proofs.Engine.Conduct
import Matryoshka.Proofs.Engine.Padding
import Matryoshka.Proofs.Engine.Rows
import Matryoshka.Proofs.Http.Exchange
import Matryoshka.Proofs.Http.Grammar
import Matryoshka.Proofs.Json.Grammar
import Matryoshka.Proofs.Json.Numbers
import Matryoshka.Proofs.Json.Reading
import Matryoshka.Proofs.Json.Records
import Matryoshka.Proofs.Json.Skipping
import Matryoshka.Proofs.Json.Strings
import Matryoshka.Proofs.Json.Values
import Matryoshka.Proofs.Json.Writing
import Matryoshka.Proofs.Mock.Causality
import Matryoshka.Proofs.Mock.Rows
import Matryoshka.Proofs.Server.Limits
import Matryoshka.Proofs.Server.Validation
import Matryoshka.Proofs.Service.Accounting
import Matryoshka.Proofs.Service.Answers
import Matryoshka.Proofs.Service.Batches
import Matryoshka.Proofs.Service.Caching
import Matryoshka.Proofs.Service.Drives
import Matryoshka.Proofs.Service.Idling
import Matryoshka.Proofs.Service.Lifecycle
import Matryoshka.Proofs.Service.Limits
import Matryoshka.Proofs.Service.Outcomes
import Matryoshka.Proofs.Service.Ownership
import Matryoshka.Proofs.Service.Progress
import Matryoshka.Proofs.Service.QueueDepth
import Matryoshka.Proofs.Service.Refusals
import Matryoshka.Proofs.Service.Shutdown
import Matryoshka.Proofs.Tokenizer.Cutting
import Matryoshka.Proofs.Tokenizer.File
import Matryoshka.Proofs.Tokenizer.Framing
import Matryoshka.Proofs.Vector.Nesting
import Matryoshka.Proofs.Wire.RoundTrip
