import CallOrder.Call.Format
import CallOrder.Main
import CallOrder.Proofs.Binary64.Nearest
import CallOrder.Proofs.Binary64.Rounding
import CallOrder.Proofs.Binary64.Arithmetic
import CallOrder.Proofs.Binary64.Canonical
import CallOrder.Proofs.Binary64.Bounds
import CallOrder.Proofs.Selection
import CallOrder.Proofs.Alignment
import CallOrder.Proofs.Threshold
import CallOrder.Proofs.Jaccard
import CallOrder.Proofs.Permuted
import CallOrder.Proofs.IndexedSearch
import CallOrder.Proofs.Soundness
import CallOrder.Proofs.Accounting
import CallOrder.Proofs.Lines
import CallOrder.Proofs.Margin
import CallOrder.Proofs.ExactSearch
import CallOrder.Proofs.Independent
import CallOrder.Proofs.Decimal.Spelling
import CallOrder.Proofs.Json.Spelling
import CallOrder.Proofs.Json.Written
import CallOrder.Proofs.Decimal.Shortest
import CallOrder.Proofs.Binary64.Decimal
import CallOrder.Proofs.Json.Restored
import CallOrder.Proofs.WrittenCorpus
import CallOrder.Proofs.Json.Reread
import CallOrder.Proofs.RereadReport
import CallOrder.Proofs.Yaml.Printable
import CallOrder.Proofs.Yaml.Quoted
import CallOrder.Proofs.Yaml.Plain
import CallOrder.Proofs.Yaml.Literal
import CallOrder.Proofs.Yaml.Tokens
import CallOrder.Proofs.Yaml.Nodes
import CallOrder.Proofs.Yaml.Allowed
import CallOrder.Proofs.Yaml.Numbers
import CallOrder.Proofs.WrittenSettings
import CallOrder.Proofs.RereadSettings
import CallOrder.Proofs.Validity
import CallOrder.Proofs.EntryPoints
import CallOrder.Proofs.Segmentation
import CallOrder.Proofs.Conventions
import CallOrder.Proofs.Components
import CallOrder.Proofs.GreedyBound
import CallOrder.Proofs.Lowercase
import CallOrder.Proofs.NormalForms
import CallOrder.Proofs.StopTokens
import CallOrder.Proofs.Binary64.Operands
import CallOrder.Proofs.Reversal
import CallOrder.Proofs.Symmetry
import CallOrder.Proofs.Evidence
import CallOrder.Proofs.ScoredPositions
import CallOrder.Proofs.Similarity
import CallOrder.Proofs.Transposition
import CallOrder.Proofs.Strongest
import CallOrder.Proofs.Json.Layout
import CallOrder.Proofs.Json.Reordered
import CallOrder.Proofs.Json.Orderly
import CallOrder.Proofs.Json.Records
import CallOrder.Proofs.KeyOrder
import CallOrder.Proofs.ScoreTable
import CallOrder.Proofs.Json.Sorted
import CallOrder.Proofs.ScanModes
import CallOrder.Proofs.Json.Reach
import CallOrder.Proofs.Json.Thresholds
import CallOrder.Proofs.ThresholdFormats
