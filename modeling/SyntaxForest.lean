import SyntaxForest.Main
import SyntaxForest.Proofs.Query.Filtering
import SyntaxForest.Proofs.Query.Reading
import SyntaxForest.Proofs.Query.Stripping
import SyntaxForest.Proofs.Query.TopLevel
import SyntaxForest.Proofs.Query.Attachment
import SyntaxForest.Proofs.Query.Printing
import SyntaxForest.Proofs.Tree.Coverage
import SyntaxForest.Proofs.Query.Blanking
import SyntaxForest.Proofs.Composite.Composition
import SyntaxForest.Proofs.Parsing.Requests
import SyntaxForest.Proofs.Composite.RegionRanges
import SyntaxForest.Proofs.Text.Displacement
import SyntaxForest.Proofs.Text.Lines
import SyntaxForest.Proofs.Text.Replacement
import SyntaxForest.Proofs.Regex.CacheHistory
import SyntaxForest.Proofs.Query.Caching
import SyntaxForest.Proofs.Tree.Nesting
import SyntaxForest.Proofs.Composite.SharedBytes
import SyntaxForest.Proofs.Parsing.Agreement
import SyntaxForest.Proofs.Composite.Rebuilding
import SyntaxForest.Proofs.Grammar.History
import SyntaxForest.Proofs.Config.Mappings
import SyntaxForest.Proofs.Parsing.Sessions
import SyntaxForest.Proofs.Parsing.Course
import SyntaxForest.Proofs.Query.Predicates
import SyntaxForest.Proofs.Query.Deciding
import SyntaxForest.Proofs.Query.Elements
import SyntaxForest.Proofs.Query.Places
import SyntaxForest.Proofs.Query.Refusals
import SyntaxForest.Proofs.Query.EchoedNames
import SyntaxForest.Proofs.Query.EchoedLines
import SyntaxForest.Proofs.Query.Concatenation
import SyntaxForest.Proofs.Query.CapturedText
import SyntaxForest.Proofs.Regex.CacheBound
import SyntaxForest.Proofs.Text.Splicing
import SyntaxForest.Proofs.Parsing.Pooling
import SyntaxForest.Proofs.Tree.Reached
import SyntaxForest.Proofs.Text.PathOrder
import SyntaxForest.Proofs.Files.Listing
import SyntaxForest.Proofs.Command.BlockLines
import SyntaxForest.Proofs.Command.OutlineLines
import SyntaxForest.Proofs.Command.Collecting
import SyntaxForest.Proofs.Command.CaptureLines
import SyntaxForest.Proofs.Command.Querying
import SyntaxForest.Proofs.Composite.Walking
import SyntaxForest.Proofs.Grammar.Registration
import SyntaxForest.Proofs.Config.Application
import SyntaxForest.Proofs.Config.Validation
import SyntaxForest.Proofs.Text.EditDistance
import SyntaxForest.Proofs.Grammar.Suggestions
import SyntaxForest.Proofs.Text.Coordinates
import SyntaxForest.Proofs.Query.ErrorPoints
import SyntaxForest.Proofs.Tree.Defects
import SyntaxForest.Proofs.Command.ErrorNotes
import SyntaxForest.Proofs.Text.Spelling
import SyntaxForest.Proofs.Query.CheckedPass
import SyntaxForest.Proofs.Query.CheckedReaders
import SyntaxForest.Proofs.Query.ByteSafety
