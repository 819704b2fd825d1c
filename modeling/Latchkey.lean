import Latchkey.Backend
import Latchkey.Base64
import Latchkey.Breaker
import Latchkey.Config
import Latchkey.Config.File
import Latchkey.Decimal.Layout
import Latchkey.Decimal.Scaled
import Latchkey.Decimal.Shortest
import Latchkey.Digest.Algorithm
import Latchkey.Digest.Blake3
import Latchkey.Digest.Block
import Latchkey.Digest.Md5
import Latchkey.Digest.Sha1
import Latchkey.Digest.Sha256
import Latchkey.Digest.Sha512
import Latchkey.Engine
import Latchkey.Event
import Latchkey.FieldFunction
import Latchkey.Formatter
import Latchkey.Json.Lexer
import Latchkey.Json.Parser
import Latchkey.Json.Printer
import Latchkey.Json.Value
import Latchkey.KeyError
import Latchkey.Limiter
import Latchkey.Log
import Latchkey.Named
import Latchkey.Pattern
import Latchkey.Pattern.Expression
import Latchkey.PolicyError
import Latchkey.Proofs.Breaker.Circuit
import Latchkey.Proofs.Breaker.Failure
import Latchkey.Proofs.Breaker.Outcome
import Latchkey.Proofs.Breaker.Overlap
import Latchkey.Proofs.Breaker.Refinement
import Latchkey.Proofs.Config.RoundTrip
import Latchkey.Proofs.Limiter.Admissions
import Latchkey.Proofs.Limiter.Bans
import Latchkey.Proofs.Limiter.Excess
import Latchkey.Proofs.Limiter.Faults
import Latchkey.Proofs.Limiter.Interleaving
import Latchkey.Proofs.Limiter.Lifetimes
import Latchkey.Proofs.Limiter.Refinement
import Latchkey.Proofs.Limiter.Window
import Latchkey.Proofs.Named
import Latchkey.Proofs.Pattern.Captures
import Latchkey.Proofs.Pattern.Equality
import Latchkey.Proofs.Pattern.Greedy
import Latchkey.Proofs.Pattern.Groups
import Latchkey.Proofs.Pattern.Matching
import Latchkey.Proofs.Pattern.Namespace
import Latchkey.Proofs.Pattern.Reading
import Latchkey.Proofs.Pattern.RoundTrip
import Latchkey.Proofs.Pattern.SafeFields
import Latchkey.Proofs.Pattern.Spelling
import Latchkey.Proofs.Registry.Construction
import Latchkey.Proofs.Registry.Contents
import Latchkey.Proofs.Registry.Journal
import Latchkey.Proofs.Registry.Lookup
import Latchkey.Proofs.Registry.Order
import Latchkey.Proofs.Registry.Provenance
import Latchkey.Proofs.Sharing.Deletion
import Latchkey.Proofs.Sharing.Footprint
import Latchkey.Proofs.Sharing.Spaces
import Latchkey.Proofs.Sharing.Steps
import Latchkey.Proofs.Signature.Arguments
import Latchkey.Proofs.Signature.Collision
import Latchkey.Proofs.Signature.Names
import Latchkey.Proofs.Store.Index
import Latchkey.Proofs.Store.Plain
import Latchkey.Proofs.Store.Refinement
import Latchkey.Proofs.Store.Representation
import Latchkey.Proofs.Template.Assembly
import Latchkey.Proofs.Template.Composition
import Latchkey.Proofs.Template.Grammar
import Latchkey.Proofs.Template.Parsing
import Latchkey.Proofs.Template.Printing
import Latchkey.Proofs.Template.Stepping
import Latchkey.Proofs.Template.Wrapping
import Latchkey.Proofs.Text
import Latchkey.Proofs.Token.Base64
import Latchkey.Proofs.Token.Document
import Latchkey.Proofs.Toml.Lines
import Latchkey.Proofs.Toml.Sheet
import Latchkey.Proofs.Toml.Written
import Latchkey.Registry
import Latchkey.Scenario.Run
import Latchkey.Scenario.Step
import Latchkey.Signature
import Latchkey.Site
import Latchkey.Store
import Latchkey.Template
import Latchkey.Template.Basic
import Latchkey.Template.Fault
import Latchkey.Template.Parser
import Latchkey.Template.Path
import Latchkey.Template.Printer
import Latchkey.Text.Blank
import Latchkey.Text.Quoted
import Latchkey.Text.Unprintable
import Latchkey.Time
import Latchkey.Token
import Latchkey.Toml.Document
import Latchkey.Toml.Parser
import Latchkey.Toml.Printer
import Latchkey.Toml.Scalar
import Latchkey.Toml.Table
import Latchkey.Toml.Text
import Latchkey.Toml.Value
import Latchkey.Word
