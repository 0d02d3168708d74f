import StyleHost.Collation.Cluster
import StyleHost.Collation.Collator
import StyleHost.Collation.Comparator
import StyleHost.Collation.Element
import StyleHost.Collation.Locales
import StyleHost.Collation.Orders.Asian
import StyleHost.Collation.Orders.Chinese
import StyleHost.Collation.Orders.Cyrillic
import StyleHost.Collation.Orders.Indic
import StyleHost.Collation.Orders.Japanese
import StyleHost.Collation.Orders.Korean
import StyleHost.Collation.Orders.Latin
import StyleHost.Collation.Orders.Pinyin
import StyleHost.Collation.Orders.Semitic
import StyleHost.Collation.Orders.Stroke
import StyleHost.Collation.Orders.Zhuyin
import StyleHost.Collation.Root
import StyleHost.Collation.Root.Groups
import StyleHost.Collation.Root.Lower
import StyleHost.Collation.Root.Sequences
import StyleHost.Collation.Root.Supplementary
import StyleHost.Collation.Root.Upper
import StyleHost.Collation.Rule
import StyleHost.Collation.Table
import StyleHost.Collation.Tailoring
import StyleHost.Config.Basic
import StyleHost.Config.Printer
import StyleHost.Config.Reader
import StyleHost.Error
import StyleHost.Fetch.Bridge
import StyleHost.Fetch.Directory
import StyleHost.Fetch.Fetcher
import StyleHost.Fetch.FileTree
import StyleHost.Fetch.Http
import StyleHost.Fetch.Interleaving
import StyleHost.Fetch.Resolver
import StyleHost.Fetch.Store
import StyleHost.Json.Cursor
import StyleHost.Json.Error
import StyleHost.Json.Number
import StyleHost.Json.Record
import StyleHost.Json.Skip
import StyleHost.Json.Text
import StyleHost.LanguageTag.Basic
import StyleHost.LanguageTag.Parser
import StyleHost.Notice
import StyleHost.Number.Double
import StyleHost.Number.Literal
import StyleHost.Number.Shortest
import StyleHost.Number.Text
import StyleHost.Panic
import StyleHost.Policy
import StyleHost.Proofs.Config.Merge
import StyleHost.Proofs.Config.RoundTrip
import StyleHost.Proofs.Fetch.Admission
import StyleHost.Proofs.Fetch.Classification
import StyleHost.Proofs.Fetch.Directory
import StyleHost.Proofs.Fetch.FileTree
import StyleHost.Proofs.Fetch.Ledger
import StyleHost.Proofs.Fetch.Loads
import StyleHost.Proofs.Fetch.Memory
import StyleHost.Proofs.Fetch.Outside
import StyleHost.Proofs.Fetch.RemoteNames
import StyleHost.Proofs.Fetch.Series
import StyleHost.Proofs.Fetch.Sharing
import StyleHost.Proofs.Fetch.Stranding
import StyleHost.Proofs.Fetch.Turns
import StyleHost.Proofs.Json.Choice
import StyleHost.Proofs.Json.Decoding
import StyleHost.Proofs.Json.Gather
import StyleHost.Proofs.Json.Grammar
import StyleHost.Proofs.Json.Members
import StyleHost.Proofs.Json.Record
import StyleHost.Proofs.Json.Skipping
import StyleHost.Proofs.Json.Strings
import StyleHost.Proofs.Json.Value
import StyleHost.Proofs.Number.Encoding
import StyleHost.Proofs.Number.Interval
import StyleHost.Proofs.Number.Nearest
import StyleHost.Proofs.Number.Numeral
import StyleHost.Proofs.Number.Positional
import StyleHost.Proofs.Number.Rounding
import StyleHost.Proofs.Number.Shortest
import StyleHost.Proofs.Number.Tally
import StyleHost.Proofs.Record
import StyleHost.Proofs.Result.Encoding
import StyleHost.Proofs.Sort.Breakdown
import StyleHost.Proofs.Sort.Correspondence
import StyleHost.Proofs.Sort.Direction
import StyleHost.Proofs.Sort.Evaluation
import StyleHost.Proofs.Sort.Filter
import StyleHost.Proofs.Sort.Gaps
import StyleHost.Proofs.Sort.Homogeneity
import StyleHost.Proofs.Sort.Key
import StyleHost.Proofs.Sort.KeyByKey
import StyleHost.Proofs.Sort.Lawless
import StyleHost.Proofs.Sort.Levels
import StyleHost.Proofs.Sort.Number
import StyleHost.Proofs.Sort.Permutation
import StyleHost.Proofs.Sort.Rearrangement
import StyleHost.Proofs.Sort.Room
import StyleHost.Proofs.Sort.Run
import StyleHost.Proofs.Sort.Stable
import StyleHost.Proofs.Sort.Stateless
import StyleHost.Proofs.Sort.Ties
import StyleHost.Proofs.Sort.Unusable
import StyleHost.Proofs.Stylesheet.Attributes
import StyleHost.Proofs.Stylesheet.Division
import StyleHost.Proofs.Stylesheet.Entities
import StyleHost.Proofs.Stylesheet.Instruction
import StyleHost.Proofs.Stylesheet.Prolog
import StyleHost.Proofs.Stylesheet.Reference
import StyleHost.Proofs.Stylesheet.Unescape
import StyleHost.Proofs.Text.Trim
import StyleHost.Proofs.Text.Utf8
import StyleHost.Proofs.Transform.Admission
import StyleHost.Proofs.Transform.Conversation
import StyleHost.Proofs.Transform.History
import StyleHost.Proofs.Transform.Load
import StyleHost.Proofs.Transform.Modes
import StyleHost.Proofs.Transform.Poisoning
import StyleHost.Proofs.Transform.Requests
import StyleHost.Proofs.Transform.Session
import StyleHost.Proofs.Transform.Stages
import StyleHost.Proofs.Url.FileUri
import StyleHost.Proofs.Url.LocalFile
import StyleHost.Proofs.Url.Scheme
import StyleHost.Proofs.XPath.Literal
import StyleHost.Proofs.Xml.Defect
import StyleHost.Proofs.Xml.Document
import StyleHost.Proofs.Xml.Pieces
import StyleHost.Record
import StyleHost.Result.Encoding
import StyleHost.Result.MediaType
import StyleHost.Result.Plain
import StyleHost.Result.Tree
import StyleHost.Sort.Gaps
import StyleHost.Sort.Key
import StyleHost.Sort.Permutation
import StyleHost.Sort.Sorter
import StyleHost.Sort.Spec
import StyleHost.Stylesheet.Attributes
import StyleHost.Stylesheet.Reference
import StyleHost.Text.Ascii
import StyleHost.Text.CodePoints
import StyleHost.Text.Composition
import StyleHost.Text.Decomposition
import StyleHost.Text.DecompositionTable
import StyleHost.Text.Direction
import StyleHost.Text.Joining
import StyleHost.Text.Mark
import StyleHost.Text.Quoted
import StyleHost.Text.Space
import StyleHost.Text.Unprintable
import StyleHost.Text.Utf8
import StyleHost.Transform.Engine
import StyleHost.Transform.Error
import StyleHost.Transform.Host
import StyleHost.Transform.Load
import StyleHost.Transform.Output
import StyleHost.Transform.Processor
import StyleHost.Url.Authority
import StyleHost.Url.Basic
import StyleHost.Url.Domain
import StyleHost.Url.Domain.Folding
import StyleHost.Url.Domain.FoldingTable
import StyleHost.Url.Error
import StyleHost.Url.FilePath
import StyleHost.Url.Host
import StyleHost.Url.Ipv4
import StyleHost.Url.Ipv6
import StyleHost.Url.Parser
import StyleHost.Url.Path
import StyleHost.Url.Percent
import StyleHost.Url.Punycode
import StyleHost.Value
import StyleHost.XPath.Literal
import StyleHost.Xml.Document
import StyleHost.Xml.Event
import StyleHost.Xml.Reader
