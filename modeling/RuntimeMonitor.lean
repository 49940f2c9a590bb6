import RuntimeMonitor.Cache.Basic
import RuntimeMonitor.Cache.Handle
import RuntimeMonitor.Cache.Key
import RuntimeMonitor.Cache.Value
import RuntimeMonitor.Digest.Base64Url
import RuntimeMonitor.Digest.Sha256
import RuntimeMonitor.Filter.Basic
import RuntimeMonitor.Filter.Catalog
import RuntimeMonitor.Filter.Compiler
import RuntimeMonitor.Identity.Arguments
import RuntimeMonitor.Identity.Attributes
import RuntimeMonitor.Identity.Basic
import RuntimeMonitor.Identity.Error
import RuntimeMonitor.Identity.FloatText
import RuntimeMonitor.Identity.LocalRuntime
import RuntimeMonitor.Json.Document
import RuntimeMonitor.Json.Form
import RuntimeMonitor.Json.Numeral
import RuntimeMonitor.Json.Value
import RuntimeMonitor.Json.Writer
import RuntimeMonitor.Number.Decimal
import RuntimeMonitor.Number.Floating
import RuntimeMonitor.Number.Radix
import RuntimeMonitor.Number.Shortest
import RuntimeMonitor.Proofs.Cache.Key
import RuntimeMonitor.Proofs.Cache.Run
import RuntimeMonitor.Proofs.Cache.TextMap
import RuntimeMonitor.Proofs.Number.Numeral
import RuntimeMonitor.Proofs.Text.ByteOrder
import RuntimeMonitor.Recording.Apply
import RuntimeMonitor.Recording.Assignment
import RuntimeMonitor.Recording.Key
import RuntimeMonitor.Recording.Sink
import RuntimeMonitor.Recording.Staged
import RuntimeMonitor.Recording.Value
import RuntimeMonitor.Settings.Basic
import RuntimeMonitor.Settings.File
import RuntimeMonitor.Text.Blank
import RuntimeMonitor.Text.Lowercase
import RuntimeMonitor.Text.ModifiedUtf8
import RuntimeMonitor.Text.Quoted
import RuntimeMonitor.Text.Reader
import RuntimeMonitor.Text.Span
import RuntimeMonitor.Text.Unprintable
import RuntimeMonitor.Toml.Document
import RuntimeMonitor.Toml.Scalar
import RuntimeMonitor.Toml.Space
import RuntimeMonitor.Toml.Strings
import RuntimeMonitor.Toml.Tree
import RuntimeMonitor.Toml.Value
import RuntimeMonitor.Proofs.Cache.Refinement
import RuntimeMonitor.Proofs.Recording.Attempts
import RuntimeMonitor.Proofs.Recording.Pass
import RuntimeMonitor.Proofs.Text.ModifiedUtf8
import RuntimeMonitor.Proofs.Filter.Tokens
import RuntimeMonitor.Proofs.Identity.Canonical
import RuntimeMonitor.Proofs.Filter.Compile
import RuntimeMonitor.Proofs.Filter.Selection
import RuntimeMonitor.Proofs.Filter.Concatenation
import RuntimeMonitor.Proofs.Text.Lowercase
import RuntimeMonitor.Proofs.Filter.Extensionality
import RuntimeMonitor.Proofs.Identity.TypedArguments
import RuntimeMonitor.Proofs.Cache.Numbering
import RuntimeMonitor.Proofs.Identity.ArgumentText
import RuntimeMonitor.Proofs.Identity.ElementType
import RuntimeMonitor.Proofs.Identity.Discovery
import RuntimeMonitor.Proofs.Recording.Session
import RuntimeMonitor.Proofs.Cache.KeyForm
import RuntimeMonitor.Proofs.Json.RoundTrip
import RuntimeMonitor.Proofs.Cache.Survival
import RuntimeMonitor.Recording.Double
import RuntimeMonitor.Proofs.Recording.Doubles
import RuntimeMonitor.Proofs.Recording.Bench
import RuntimeMonitor.Proofs.Text.Reader
import RuntimeMonitor.Proofs.Toml.Names
import RuntimeMonitor.Proofs.Settings.Document
import RuntimeMonitor.Proofs.Cache.Eviction
import RuntimeMonitor.Proofs.Cache.Filling
import RuntimeMonitor.Proofs.Recording.Quantity
import RuntimeMonitor.Proofs.Recording.Duration
import RuntimeMonitor.Proofs.Recording.Size
import RuntimeMonitor.Proofs.Text.EncodedSize
import RuntimeMonitor.Proofs.Identity.Layout
import RuntimeMonitor.Proofs.Identity.Inference
import RuntimeMonitor.Proofs.Number.Rounding
import RuntimeMonitor.Proofs.Number.NumeralText
import RuntimeMonitor.Proofs.Number.Floating
import RuntimeMonitor.Proofs.Identity.FloatText
import RuntimeMonitor.Proofs.Identity.IntegerArguments
import RuntimeMonitor.Proofs.Json.Traversal
import RuntimeMonitor.Proofs.Json.Exact
import RuntimeMonitor.Proofs.Identity.Faults
import RuntimeMonitor.Proofs.Recording.Spelling
import RuntimeMonitor.Proofs.Settings.Calls
import RuntimeMonitor.Proofs.Cache.Tagged
import RuntimeMonitor.Proofs.Digest.Base64Url
import RuntimeMonitor.Proofs.Identity.DigestText
import RuntimeMonitor.Proofs.Identity.FloatNumeral
import RuntimeMonitor.Proofs.Identity.RuntimeDecimal
