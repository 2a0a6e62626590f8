import Exarrow.Foundations.Calendar
import Exarrow.Foundations.Checked
import Exarrow.Foundations.Client
import Exarrow.Foundations.Ieee
import Exarrow.Foundations.Machine
import Exarrow.Foundations.Numeral
import Exarrow.Foundations.Runs
import Exarrow.Arrow
import Exarrow.Error
import Exarrow.Json
import Exarrow.Types
import Exarrow.Foundations.Text
import Exarrow.Conversion
import Exarrow.Formatting
import Exarrow.Statement
import Exarrow.Prepared
import Exarrow.Ffi.Parameters
import Exarrow.Results.Columns
import Exarrow.ArrowConversion
import Exarrow.Agreement
import Exarrow.Results.ResultSet
import Exarrow.Results.Contract
import Exarrow.Protocol
import Exarrow.Connection
import Exarrow.ConnectionRules
import Exarrow.Transactions
import Exarrow.QueryTimeout
import Exarrow.Foundations.Reader
import Exarrow.Native.Primitives
import Exarrow.Native.ResultParser
import Exarrow.Intervals
import Exarrow.Native.Values
import Exarrow.Native.Layout
import Exarrow.Native.Safety
import Exarrow.Native.Envelope
import Exarrow.Native.Locality
import Exarrow.Native.WholeParts
import Exarrow.Native.Unwrapped
import Exarrow.Foundations.Rounding
import Exarrow.TemporalText
import Exarrow.Foundations.Packing
import Exarrow.Native.Parameters
import Exarrow.Native.Splitting
import Exarrow.Native.Denotation
import Exarrow.Native.ReadBack
import Exarrow.Foundations.Keystream
import Exarrow.Native.Framing
import Exarrow.Transport.Lifecycle
import Exarrow.Native.Handshake
import Exarrow.Native.Transport
import Exarrow.Csv.Rows
import Exarrow.Native.Endpoint
import Exarrow.Http.Chunked
import Exarrow.Http.Ranges
import Exarrow.Native.Temporal
import Exarrow.Export.Settle
import Exarrow.Csv.Compression
import Exarrow.Csv.Streams
import Exarrow.Csv.Import
import Exarrow.Import.Parquet
import Exarrow.Foundations.Lexing
import Exarrow.Query.Clauses
import Exarrow.Query.Import
import Exarrow.Query.Export
import Exarrow.Csv.Files
import Exarrow.Foundations.Segments
import Exarrow.Query.Placeholders
import Exarrow.Query.Literals
import Exarrow.Foundations.Merging
import Exarrow.Inference
import Exarrow.Http.ChunkGrammar
import Exarrow.Http.Lines
import Exarrow.Query.Substitution
import Exarrow.IntervalText
import Exarrow.DecimalText
import Exarrow.Export.Counting
import Exarrow.Export.Arrays
import Exarrow.Export.Batches
import Exarrow.Export.TwoPaths
import Exarrow.Export.LineReader
import Exarrow.OwnedConversion
import Exarrow.Native.Attributes
import Exarrow.Foundations.Interleaving
import Exarrow.Native.Passwords
import Exarrow.Native.TemporalParameters
import Exarrow.Native.DayCount
import Exarrow.Foundations.Products
import Exarrow.Results.Decimals
import Exarrow.DecimalBuilding
import Exarrow.Import.Formatters
import Exarrow.Import.Writer
import Exarrow.Foundations.Shortest
import Exarrow.Widening
import Exarrow.Foundations.Percent
import Exarrow.Uri.Parse
import Exarrow.Uri.Components
import Exarrow.Uri.Secrecy
import Exarrow.Ddl.Types
import Exarrow.Ffi.TypeStrings
import Exarrow.Ddl.Tokens
import Exarrow.Ffi.Ingest
import Exarrow.Csv.Nulls
import Exarrow.Ddl.InferredTable
import Exarrow.Ffi.Objects
import Exarrow.Ffi.TableSchema
import Exarrow.Ffi.AutoCommit
import Exarrow.Ffi.Statement
import Exarrow.Ffi.Delivery
import Exarrow.Transport.Decryption
import Exarrow.Transport.KeyReading
import Exarrow.Foundations.Rsa
import Exarrow.Transport.Life
import Exarrow.Native.Exchanges
import Exarrow.Native.Lifecycle
import Exarrow.Native.Pairing
import Exarrow.Import.ReadBack
import Exarrow.Transport.Messages
import Exarrow.Transport.WebSocket
import Exarrow.Transport.WebSocketLife
import Exarrow.Transport.WebSocketServer
import Exarrow.Transport.WebSocketReading
import Exarrow.Export.Relay
