import Templating.Assembly
import Templating.Call
import Templating.Command
import Templating.CommandLine.Arguments
import Templating.CommandLine.Run
import Templating.Configuration
import Templating.Decimal.Binary
import Templating.Decimal.Digits
import Templating.Decimal.Fixed
import Templating.Decimal.Shortest
import Templating.Dialect
import Templating.Engine
import Templating.Error
import Templating.Fault
import Templating.Files.Access
import Templating.Files.Glob
import Templating.Files.Loading
import Templating.Files.Tree
import Templating.Format
import Templating.Json.Reader
import Templating.Json.Token
import Templating.Json.Writer
import Templating.Main
import Templating.Model.Access
import Templating.Model.Discovery
import Templating.Model.Scope
import Templating.Model.Value
import Templating.ModelPath
import Templating.Node
import Templating.ParseError
import Templating.Proofs.Calls
import Templating.Proofs.Concatenation
import Templating.Proofs.Denotation
import Templating.Proofs.Grammar
import Templating.Proofs.Marks
import Templating.Proofs.Parsing
import Templating.Proofs.Printing
import Templating.Proofs.Wording
import Templating.Recognition
import Templating.Render
import Templating.Segmentation
import Templating.Sentence
import Templating.Template
import Templating.Text.Alphabetic
import Templating.Text.Blank
import Templating.Text.CaseMap
import Templating.Text.LetterCase
import Templating.Text.Numeric
import Templating.Text.Pieces
import Templating.Text.Span
import Templating.Text.WordStyle
import Templating.Yaml.Lexer
import Templating.Yaml.Node
import Templating.Yaml.Scalar
import Templating.Yaml.Schema
import Templating.Yaml.Source
import Templating.Yaml.Token
import Templating.Proofs.Paths
import Templating.Proofs.Places
import Templating.Proofs.Lockstep
import Templating.Proofs.Noninterference
import Templating.Proofs.Registration
import Templating.Proofs.Executability
import Templating.Proofs.Keywords
import Templating.Proofs.SelfReference
import Templating.Proofs.Registries
import Templating.Proofs.SessionRuns
import Templating.Proofs.Channels
import Templating.Proofs.Offsets
import Templating.Proofs.Turns
import Templating.Proofs.ErrorPlaces
import Templating.Proofs.CallStack
import Templating.Proofs.FirstFault
import Templating.Proofs.Ownership
import Templating.Proofs.PathComposition
import Templating.Proofs.CallSyntax
import Templating.Proofs.CallPattern
import Templating.Proofs.WalkedPaths
import Templating.Proofs.FailingName
import Templating.Proofs.SelfValue
import Templating.Proofs.Numerals
import Templating.Proofs.NumberFormats
import Templating.Proofs.Aborts
import Templating.Proofs.FormatLimits
import Templating.Proofs.ArgumentCounts
import Templating.Proofs.Validation
import Templating.Proofs.BoundFields
import Templating.Proofs.Passes
import Templating.Proofs.OpenFrames
