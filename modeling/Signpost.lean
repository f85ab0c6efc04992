import Signpost.Collection
import Signpost.Collection.Compile
import Signpost.Collection.Fingerprint
import Signpost.Collection.Options
import Signpost.Dict
import Signpost.Digest.Sha256
import Signpost.Distinct
import Signpost.Error
import Signpost.Group
import Signpost.Http.Message
import Signpost.Http.Uri
import Signpost.Json.Basic
import Signpost.Json.Lexer
import Signpost.Json.Read
import Signpost.Json.Record
import Signpost.Json.Write
import Signpost.Marks
import Signpost.Matcher.Basic
import Signpost.Matcher.Context
import Signpost.Matcher.Data
import Signpost.Matcher.Format
import Signpost.Matcher.Lookup
import Signpost.Matcher.Params
import Signpost.Matcher.Stored
import Signpost.Merge.Render
import Signpost.Merge.Tree
import Signpost.Pattern.Fragment
import Signpost.Pattern.Parser
import Signpost.Pattern.Target
import Signpost.Pattern.Token
import Signpost.Pipeline.Dispatch
import Signpost.Pipeline.Job
import Signpost.Pipeline.Link
import Signpost.Pipeline.Script
import Signpost.Proofs.Collection.Alone
import Signpost.Proofs.Collection.Competing
import Signpost.Proofs.Collection.Compiled
import Signpost.Proofs.Collection.Faults
import Signpost.Proofs.Collection.Fingerprint
import Signpost.Proofs.Collection.Groups
import Signpost.Proofs.Collection.Halving
import Signpost.Proofs.Collection.Leaves
import Signpost.Proofs.Collection.Ranks
import Signpost.Proofs.Collection.Sharing
import Signpost.Proofs.Collection.Sorting
import Signpost.Proofs.Collection.WellFormed
import Signpost.Proofs.Json.Records
import Signpost.Proofs.Json.RoundTrip
import Signpost.Proofs.Json.Tokens
import Signpost.Proofs.Matcher.Allowed
import Signpost.Proofs.Matcher.Binding
import Signpost.Proofs.Matcher.Bounds
import Signpost.Proofs.Matcher.Chunks
import Signpost.Proofs.Matcher.Found
import Signpost.Proofs.Matcher.Methods
import Signpost.Proofs.Matcher.Names
import Signpost.Proofs.Matcher.Order
import Signpost.Proofs.Matcher.Params
import Signpost.Proofs.Matcher.Routes
import Signpost.Proofs.Matcher.Scan
import Signpost.Proofs.Matcher.Search
import Signpost.Proofs.Matcher.Stored
import Signpost.Proofs.Matcher.Tally
import Signpost.Proofs.Matcher.Total
import Signpost.Proofs.Merge.Captures
import Signpost.Proofs.Merge.Choice
import Signpost.Proofs.Merge.Factoring
import Signpost.Proofs.Merge.Literal
import Signpost.Proofs.Merge.Matching
import Signpost.Proofs.Merge.Names
import Signpost.Proofs.Merge.Numbering
import Signpost.Proofs.Merge.Places
import Signpost.Proofs.Merge.Present
import Signpost.Proofs.Merge.Reading
import Signpost.Proofs.Merge.Runs
import Signpost.Proofs.Merge.Shape
import Signpost.Proofs.Pattern.Bodies
import Signpost.Proofs.Pattern.Brackets
import Signpost.Proofs.Pattern.Classes
import Signpost.Proofs.Pattern.Constraints
import Signpost.Proofs.Pattern.Escapes
import Signpost.Proofs.Pattern.Grammar
import Signpost.Proofs.Pattern.Parsing
import Signpost.Proofs.Pattern.Parts
import Signpost.Proofs.Pattern.Reading
import Signpost.Proofs.Pattern.Segments
import Signpost.Proofs.Pattern.Shapes
import Signpost.Proofs.Pattern.Taking
import Signpost.Proofs.Pattern.Written
import Signpost.Proofs.Pipeline.Histories
import Signpost.Proofs.Pipeline.Keeping
import Signpost.Proofs.Pipeline.LifeCycle
import Signpost.Proofs.Pipeline.Nesting
import Signpost.Proofs.Pipeline.Turns
import Signpost.Proofs.Regex.Alternatives
import Signpost.Proofs.Regex.Bracketed
import Signpost.Proofs.Regex.Counting
import Signpost.Proofs.Regex.Moves
import Signpost.Proofs.Regex.Nesting
import Signpost.Proofs.Regex.Outlines
import Signpost.Proofs.Regex.Parts
import Signpost.Proofs.Regex.Reach
import Signpost.Proofs.Regex.Reading
import Signpost.Proofs.Regex.Scanning
import Signpost.Proofs.Regex.Search
import Signpost.Proofs.Regex.Spelling
import Signpost.Proofs.Regex.Transport
import Signpost.Proofs.Regex.Wrapping
import Signpost.Proofs.Route.Defaults
import Signpost.Proofs.Router.Allow
import Signpost.Proofs.Router.CacheFile
import Signpost.Proofs.Router.Capitals
import Signpost.Proofs.Router.Chain
import Signpost.Proofs.Router.Decisions
import Signpost.Proofs.Router.Memo
import Signpost.Proofs.Router.Redirection
import Signpost.Proofs.Text.Bytes
import Signpost.Proofs.Unicode.Orbits
import Signpost.Proofs.Url.Arrival
import Signpost.Proofs.Url.Emission
import Signpost.Proofs.Url.Form
import Signpost.Proofs.Url.Hosts
import Signpost.Proofs.Url.Reference
import Signpost.Proofs.Url.Resolution
import Signpost.Proofs.Url.Return
import Signpost.Proofs.Url.Targets
import Signpost.Regex
import Signpost.Regex.Class
import Signpost.Regex.Estimate
import Signpost.Regex.Flags
import Signpost.Regex.Match
import Signpost.Regex.Scan
import Signpost.Registry
import Signpost.Route
import Signpost.Route.Compile
import Signpost.Router.Basic
import Signpost.Router.Config
import Signpost.Router.Files
import Signpost.Router.Serve
import Signpost.Router.Site
import Signpost.Text.Quoted
import Signpost.Unicode.CaseFold
import Signpost.Unicode.Property
import Signpost.Unicode.Word
import Signpost.Url.Form
import Signpost.Url.Generate
import Signpost.Word
