import StoredDocs.Assembly
import StoredDocs.Bindings
import StoredDocs.BitSet
import StoredDocs.Bytes
import StoredDocs.Cache
import StoredDocs.Cli.Grammar
import StoredDocs.Cli.Help
import StoredDocs.Cli.HexText
import StoredDocs.Cli.Parse
import StoredDocs.Cli.Report
import StoredDocs.Cli.Run
import StoredDocs.Cli.Similarity
import StoredDocs.Cli.Snapshot
import StoredDocs.Codec
import StoredDocs.Config
import StoredDocs.Config.Json
import StoredDocs.Document
import StoredDocs.Error
import StoredDocs.Fault
import StoredDocs.Fetch
import StoredDocs.Field
import StoredDocs.Json.Decode
import StoredDocs.Json.Failure
import StoredDocs.Json.Reader
import StoredDocs.Json.Value
import StoredDocs.Key
import StoredDocs.Main
import StoredDocs.Norms.Accumulator
import StoredDocs.Norms.Growth
import StoredDocs.Norms.NormArray
import StoredDocs.Norms.Posting
import StoredDocs.Norms.Vint
import StoredDocs.Number.Binary64
import StoredDocs.Proofs.Bits.Refinement
import StoredDocs.Proofs.Cli.HexInput
import StoredDocs.Proofs.Codec.Reencoding
import StoredDocs.Proofs.Codec.RoundTrip
import StoredDocs.Proofs.Key.Layout
import StoredDocs.Proofs.Norms.Accumulation
import StoredDocs.Proofs.Norms.Arrays
import StoredDocs.Proofs.Norms.Doubling
import StoredDocs.Proofs.Norms.Refusals
import StoredDocs.Proofs.Norms.Vint
import StoredDocs.Proofs.Reader.Atomicity
import StoredDocs.Proofs.Reader.CacheStats
import StoredDocs.Proofs.Reader.DocumentCache
import StoredDocs.Proofs.Reader.FieldSelection
import StoredDocs.Proofs.Reader.MissedRead
import StoredDocs.Proofs.Reader.NormCache
import StoredDocs.Proofs.Reader.Steps
import StoredDocs.Proofs.Reader.TermCursors
import StoredDocs.Proofs.Store.FiniteMap
import StoredDocs.Proofs.Store.Ordered
import StoredDocs.Proofs.Text.Hex
import StoredDocs.Proofs.Text.Utf8
import StoredDocs.Reader
import StoredDocs.RowBuilder
import StoredDocs.Session.Bits
import StoredDocs.Session.Caches
import StoredDocs.Session.NormSlots
import StoredDocs.Session.Reader
import StoredDocs.Session.Rows
import StoredDocs.Session.Store
import StoredDocs.Session.Trace
import StoredDocs.Store.ByteMap
import StoredDocs.Store.Memory
import StoredDocs.Store.Row
import StoredDocs.Terms
import StoredDocs.Text.Blank
import StoredDocs.Text.Extend
import StoredDocs.Text.Hex
import StoredDocs.Text.Integer
import StoredDocs.Text.Literal
import StoredDocs.Text.Printable
import StoredDocs.Text.Utf8
